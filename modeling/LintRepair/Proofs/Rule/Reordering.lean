import LintRepair.Proofs.Replacement.Independence
import LintRepair.Proofs.Rule.Passes
import LintRepair.Proofs.Rule.Scanning

/-! # The order of the fixed rules

No two of the fixed rules meet: none finds more, less or something else after another. So they can be
put in any order where they stand side by side.
-/

namespace LintRepair

open LintRepair.Text LintRepair.Files LintRepair.Pattern LintRepair.Replacement

section Forall₂

variable {α β : Type} {P : α → β → Prop} {R : β → β → Prop} {S : α → α → Prop} {xs : List α}
  {ys : List β}

theorem exists_mem_of_forall₂ (h : List.Forall₂ P xs ys) {x : α} (hx : x ∈ xs) : ∃ y ∈ ys, P x y := by
  induction h with
  | nil => cases hx
  | cons head _ ih =>
    cases List.mem_cons.mp hx with
    | inl same => exact ⟨_, List.mem_cons_self, same ▸ head⟩
    | inr hx =>
      obtain ⟨y, hy, related⟩ := ih hx
      exact ⟨y, List.mem_cons_of_mem _ hy, related⟩

/-- A relation between the members of a list carries over to a list that follows it. -/
theorem pairwise_of_forall₂ (h : List.Forall₂ P xs ys) (pairwise : ys.Pairwise R)
    (step : ∀ x x' y y', P x y → P x' y' → R y y' → S x x') : xs.Pairwise S := by
  induction h with
  | nil => exact .nil
  | cons head tail ih =>
    obtain ⟨first, others⟩ := List.pairwise_cons.mp pairwise
    refine List.pairwise_cons.mpr ⟨fun x' hx' => ?_, ih others⟩
    obtain ⟨y', hy', related⟩ := exists_mem_of_forall₂ tail hx'
    exact step _ _ _ _ head related (first y' hy')

end Forall₂

/-- Whether a compiled rule goes through every document as a scanner that makes an edit. -/
def CompiledRule.Scans (r : CompiledRule) (e : Edit) : Prop :=
  ∃ s : Scanner, s.Makes e ∧ ∀ d : Document, (r.apply d).toList = s.run d.toList

namespace Rule

variable {rule : Rule} {rules : List Rule} {e : Edit} {es : List Edit} {p : Pipeline}

theorem scans_of_realizes (realizes : rule.Realizes e) (scannable : e.Scannable)
    {source : Option FilePath} {r : CompiledRule} (compiled : rule.compile source = .ok r) :
    r.Scans e := by
  obtain ⟨s, makes⟩ := scannable.scanner
  exact ⟨s, makes, fun d => makes.eq_run scannable.solid (realizes source r compiled d)⟩

theorem scans_of_compileAll (realizes : List.Forall₂ Realizes rules es)
    (scannable : ∀ e ∈ es, e.Scannable) (compiled : compileAll rules = .ok p) :
    List.Forall₂ CompiledRule.Scans p es := by
  induction realizes generalizing p with
  | nil =>
    obtain rfl : p = [] := by simpa [compileAll, pure, Except.pure, eq_comm] using compiled
    exact .nil
  | cons head _ ih =>
    obtain ⟨first, others⟩ := List.forall_mem_cons.mp scannable
    obtain ⟨r, rs, hr, hrs, rfl⟩ := compileAll_cons_eq_ok compiled
    exact .cons (scans_of_realizes head first hr) (ih others hrs)

end Rule

/-- Rules that can be exchanged leave the same document in whatever order they run. -/
theorem Pipeline.run_perm {p q : Pipeline} (perm : p.Perm q)
    (comm : ∀ r ∈ p, ∀ r' ∈ p, ∀ d, r.apply (r'.apply d) = r'.apply (r.apply d)) (d : Document) :
    p.run d = q.run d :=
  perm.foldl_eq' (fun r hr r' hr' d => comm r' hr' r hr d) d

theorem Pipeline.apply_append_congr {p q : Pipeline} (same : ∀ d, p.run d = q.run d)
    (front back : Pipeline) (text : String) :
    Pipeline.apply (front ++ p ++ back) text = Pipeline.apply (front ++ q ++ back) text := by
  simp only [apply, run, List.foldl_append]
  exact congrArg (fun d => Document.toString (run back d)) (same _)

namespace Catalog

variable {f g : Phrase} {put key : List Char}

theorem regular_replace (nonempty : f.chars ≠ [])
    (looks : ∀ c d, (Word c ↔ Word d) → (f.left c ↔ f.left d) ∧ (f.right c ↔ f.right d))
    (some : put ≠ []) (head : Word f.chars.head? ↔ Word put.head?)
    (last : Word f.chars.getLast? ↔ Word put.getLast?) : (Edit.replace f put).Regular Word := by
  refine ⟨Edit.solid_replace nonempty, ?_, some, ?_, ?_⟩
  · rintro _ rfl
    exact looks
  · rintro _ rfl
    exact head
  · rintro _ rfl
    exact last

theorem regular_lookup (hkey : key ∈ keys) : (lookup key).Regular Word := by
  have last : ∀ key ∈ keys, Word ('[' :: key ++ "] ||".toList).getLast? ↔
      Word "[name] ??".toList.getLast? := by decide
  exact regular_replace (List.cons_ne_nil _ _) (fun _ _ kinds => ⟨kinds, Iff.rfl⟩) (by decide) Iff.rfl
    (last key hkey)

theorem regular_emptyCondition : emptyCondition.Regular Word := by
  refine ⟨solid_emptyCondition, fun f sought c d _ => ?_, by decide, fun f sought => ?_,
    fun f sought => ?_⟩
  · obtain ⟨_, _, _, _, -, rfl⟩ := sought
    exact ⟨Iff.rfl, Iff.rfl⟩
  · rw [head?_emptyCondition sought]
    decide
  · rw [getLast?_emptyCondition sought]
    decide

theorem regular_consoleLog : consoleLog.Regular Word :=
  regular_replace (by decide) (fun _ _ _ => ⟨Iff.rfl, Iff.rfl⟩) (by decide) (by decide) (by decide)

theorem regular_unusedPrefix : unusedPrefix.Regular Word :=
  regular_replace (by decide) (fun _ _ kinds => ⟨not_congr kinds, kinds⟩) (by decide) (by decide)
    (by decide)

theorem regular_fixed : ∀ e ∈ leadingEdits ++ trailingEdits, e.Regular Word := by
  intro e he
  rcases List.mem_append.mp he with he | he
  · obtain ⟨key, hkey, rfl⟩ := List.mem_map.mp he
    exact regular_lookup hkey
  · simp only [trailingEdits, List.mem_cons, List.not_mem_nil, or_false] at he
    rcases he with rfl | rfl | rfl
    · exact regular_emptyCondition
    · exact regular_consoleLog
    · exact regular_unusedPrefix

/-- A condition on an empty object does not meet what starts with another character and has no letter
    with which a condition starts. -/
theorem emptyCondition_apart {c d : Char} (first : g.chars.head? = some c)
    (first' : put.head? = some d)
    (loud : c ∉ ['i', 'f', '(', '{', '}', ')'] ∧ ¬ whiteSpace.contains c = true)
    (loud' : d ∉ ['i', 'f', '(', '{', '}', ')'] ∧ ¬ whiteSpace.contains d = true)
    (other : c ∉ emptyCondition.put) (old : 'i' ∉ g.chars) (new : 'i' ∉ put) :
    emptyCondition.Apart (.replace g put) := by
  have start : emptyCondition.put.head? = some 'i' := by decide
  refine ⟨?_, ?_, ?_⟩
  · rintro f _ sought rfl
    exact ⟨clear_of_head first (not_mem_emptyCondition sought loud),
      clear_of_head (head?_emptyCondition sought) old⟩
  · intro f sought
    exact ⟨clear_of_head first' (not_mem_emptyCondition sought loud'),
      clear_of_head (head?_emptyCondition sought) new⟩
  · rintro _ rfl
    exact ⟨clear_of_head start old, clear_of_head first other⟩

/-- No two of the fixed edits meet. -/
theorem apart_fixed : (leadingEdits ++ trailingEdits).Pairwise Edit.Apart := by
  have lookups : (lookup "name".toList).Apart (lookup "value".toList) :=
    Edit.apart_replace (by decide) (by decide) (by decide)
  have condition (key : List Char) (hkey : key ∈ keys) : (lookup key).Apart emptyCondition := by
    have old : ∀ key ∈ keys, 'i' ∉ '[' :: key ++ "] ||".toList := by decide
    exact (emptyCondition_apart (c := '[') (d := '[') rfl rfl (by decide) (by decide) (by decide)
      (old key hkey) (by decide)).symm
  have log (key : List Char) (hkey : key ∈ keys) : (lookup key).Apart consoleLog := by
    have sought : ∀ key ∈ keys, Separate ('[' :: key ++ "] ||".toList) "console.log(".toList := by decide
    have left : ∀ key ∈ keys, Separate ('[' :: key ++ "] ||".toList) "console.warn(".toList := by decide
    exact Edit.apart_replace (sought key hkey) (left key hkey) (by decide)
  have unused (key : List Char) (hkey : key ∈ keys) : (lookup key).Apart unusedPrefix := by
    have sought : ∀ key ∈ keys, Separate ('[' :: key ++ "] ||".toList) "unused".toList := by decide
    have left : ∀ key ∈ keys, Separate ('[' :: key ++ "] ||".toList) "_".toList := by decide
    exact Edit.apart_replace (sought key hkey) (left key hkey) (by decide)
  have conditionLog : emptyCondition.Apart consoleLog :=
    emptyCondition_apart (c := 'c') (d := 'c') rfl rfl (by decide) (by decide) (by decide) (by decide)
      (by decide)
  have conditionUnused : emptyCondition.Apart unusedPrefix :=
    emptyCondition_apart (c := 'u') (d := '_') rfl rfl (by decide) (by decide) (by decide) (by decide)
      (by decide)
  have logUnused : consoleLog.Apart unusedPrefix :=
    Edit.apart_replace (by decide) (by decide) (by decide)
  have trailing : trailingEdits.Pairwise Edit.Apart := by
    simp [trailingEdits, conditionLog, conditionUnused, logUnused]
  have leading : leadingEdits.Pairwise Edit.Apart := by
    simpa [leadingEdits, keys] using lookups
  refine List.pairwise_append.mpr ⟨leading, trailing, fun e he a ha => ?_⟩
  obtain ⟨key, hkey, rfl⟩ := List.mem_map.mp he
  simp only [trailingEdits, List.mem_cons, List.not_mem_nil, or_false] at ha
  rcases ha with rfl | rfl | rfl
  · exact condition key hkey
  · exact log key hkey
  · exact unused key hkey

/-- Rules of edits that do not meet can be exchanged. -/
theorem apply_comm {e a : Edit} {r r' : CompiledRule} (scans : r.Scans e) (scans' : r'.Scans a)
    (regular : e.Regular Word) (regular' : a.Regular Word) (apart : e.Apart a) (d : Document) :
    r.apply (r'.apply d) = r'.apply (r.apply d) := by
  obtain ⟨s, makes, runs⟩ := scans
  obtain ⟨t, makes', runs'⟩ := scans'
  apply Array.toList_inj.mp
  rw [runs, runs', runs', runs, Scanner.run_comm makes makes' regular regular' apart]

theorem apply_comm_fixed {ps : Pipeline} (compiled : Rule.compileAll (leading ++ trailing) = .ok ps) :
    ∀ r ∈ ps, ∀ r' ∈ ps, ∀ d, r.apply (r'.apply d) = r'.apply (r.apply d) := by
  have scans := Rule.scans_of_compileAll (List.rel_append realizes_leading realizes_trailing)
    scannable_fixed compiled
  have apart := apart_fixed.imp_of_mem fun he ha apart =>
    And.intro (regular_fixed _ he) (And.intro (regular_fixed _ ha) apart)
  have pairs : ps.Pairwise fun r r' => ∀ d, r.apply (r'.apply d) = r'.apply (r.apply d) := by
    refine pairwise_of_forall₂ scans apart fun r r' e a scans scans' related d => ?_
    obtain ⟨regular, regular', apart⟩ := related
    exact apply_comm scans scans' regular regular' apart d
  have symm : ps.Pairwise fun r r' => ∀ d, r'.apply (r.apply d) = r.apply (r'.apply d) :=
    pairs.imp fun comm d => (comm d).symm
  intro r hr r' hr'
  exact pairs.forall_of_forall_of_flip (fun _ _ _ => rfl) symm hr hr'

/-- The fixed rules can be compiled, every two of them can be exchanged, and wherever some of them stand
    side by side in a pipeline, their order does not matter. -/
theorem fixed_rules_commute : ∃ ps, Rule.compileAll (leading ++ trailing) = .ok ps ∧
    (∀ r ∈ ps, ∀ r' ∈ ps, ∀ d : Document, r.apply (r'.apply d) = r'.apply (r.apply d)) ∧
    ∀ front qs qs' back : Pipeline, (∀ r ∈ qs, r ∈ ps) → qs.Perm qs' → ∀ text : String,
      Pipeline.apply (front ++ qs ++ back) text = Pipeline.apply (front ++ qs' ++ back) text := by
  obtain ⟨ps, compiled⟩ := Rule.exists_compileAll fun _ => exists_compile_fixed
  have comm := apply_comm_fixed compiled
  refine ⟨ps, compiled, comm, fun front qs qs' back among perm text => ?_⟩
  refine Pipeline.apply_append_congr (fun d => Pipeline.run_perm perm ?_ d) front back text
  exact fun r hr r' hr' => comm r (among r hr) r' (among r' hr')

theorem fixed_rules_commute_reversed : ∃ ps, Rule.compileAll (leading ++ trailing) = .ok ps ∧
    ∀ text, Pipeline.apply ps text = Pipeline.apply ps.reverse text := by
  obtain ⟨ps, compiled, -, reordered⟩ := fixed_rules_commute
  refine ⟨ps, compiled, fun text => ?_⟩
  simpa using reordered [] ps ps.reverse [] (fun _ => id) ps.reverse_perm.symm text

end Catalog

end LintRepair
