import LintRepair.Proofs.Rule.Negation

/-! # How the edits act on each other

None of the fixed edits puts into a text what it or one before it seeks. After a pass that rewrites no
negation the text is therefore clean for all of them.
-/

namespace LintRepair.Catalog

open LintRepair.Text LintRepair.Replacement

variable {e : Edit} {key cs u v : List Char} {c : Char}

/-- The keys whose lookups are rewritten. -/
def keys : List (List Char) := ["name".toList, "value".toList]

/-- The edits of the rules in front of those for identifiers. -/
def leadingEdits : List Edit := keys.map lookup

/-- The edits of the rules after those for identifiers. -/
def trailingEdits : List Edit := [emptyCondition, consoleLog, unusedPrefix]

theorem solid_lookup (key : List Char) : (lookup key).Solid :=
  Edit.solid_replace (List.cons_ne_nil _ _)

theorem solid_emptyCondition : emptyCondition.Solid := by
  intro _ h
  obtain ⟨a, b, c, d, -, rfl⟩ := h
  exact List.cons_ne_nil _ _

theorem solid_consoleLog : consoleLog.Solid := Edit.solid_replace (List.cons_ne_nil _ _)

theorem solid_unusedPrefix : unusedPrefix.Solid := Edit.solid_replace (List.cons_ne_nil _ _)

theorem solid_negation (cs : List Char) : (negation cs).Solid :=
  Edit.solid_replace (List.cons_ne_nil _ _)

theorem solid_leading : ∀ e ∈ leadingEdits, e.Solid := by
  intro e he
  obtain ⟨key, -, rfl⟩ := List.mem_map.mp he
  exact solid_lookup key

theorem solid_trailing : ∀ e ∈ trailingEdits, e.Solid :=
  List.forall_mem_cons.mpr ⟨solid_emptyCondition, List.forall_mem_cons.mpr ⟨solid_consoleLog,
    List.forall_mem_cons.mpr ⟨solid_unusedPrefix, by simp⟩⟩⟩

theorem spares_lookup (hkey : key ∈ keys) (solid : e.Solid) (hput : e.put = u ++ c :: v)
    (hc : ∀ key ∈ keys, c ∉ '[' :: key ++ "] ||".toList) (hu : '|' ∉ u) (hv : '[' ∉ v)
    (left : ∀ g, e.sought g → Word e.put.getLast? → Word g.chars.getLast?) :
    e.Spares (lookup key) := by
  have last : ('[' :: key ++ "] ||".toList).getLast? = some '|' := by
    rw [show '[' :: key ++ "] ||".toList = ('[' :: key ++ "] |".toList) ++ ['|'] by simp,
      List.getLast?_concat]
  refine Edit.spares_of_pivot solid hput (solid_lookup key) ?_ ?_ ?_ ?_ ?_
  · intro _ same
    subst same
    exact hc key hkey
  · intro _ same d hd heq
    subst same
    exact hu (Option.some.inj (last.symm.trans heq) ▸ hd)
  · intro _ same d hd heq
    subst same
    exact hv (Option.some.inj heq ▸ hd)
  · intro _ same g sought
    subst same
    exact left g sought
  · intro _ same _ _ _
    subst same
    trivial

theorem fixed_spare_lookup (hkey : key ∈ keys) :
    ∀ e ∈ leadingEdits ++ trailingEdits, e.Spares (lookup key) := by
  intro e he
  rcases List.mem_append.mp he with he | he
  · obtain ⟨key', -, rfl⟩ := List.mem_map.mp he
    have hput : (lookup key').put = "[name] ".toList ++ '?' :: ['?'] := rfl
    exact spares_lookup hkey (solid_lookup key') hput (by decide) (by decide) (by decide)
      fun _ _ h => absurd h (show ¬ Word "[name] ??".toList.getLast? by decide)
  simp only [trailingEdits, List.mem_cons, List.not_mem_nil, or_false] at he
  rcases he with rfl | rfl | rfl
  · have hput : emptyCondition.put = [] ++ 'i' :: "f (false)".toList := rfl
    exact spares_lookup hkey solid_emptyCondition hput (by decide) (by decide) (by decide)
      fun _ _ h => absurd h (by decide)
  · have hput : consoleLog.put = [] ++ 'c' :: "onsole.warn(".toList := rfl
    exact spares_lookup hkey solid_consoleLog hput (by decide) (by decide) (by decide)
      fun _ _ h => absurd h (by decide)
  · have hput : unusedPrefix.put = [] ++ '_' :: [] := rfl
    refine spares_lookup hkey solid_unusedPrefix hput (by decide) (by decide) (by decide) ?_
    intro _ same _
    subst same
    decide

theorem exists_tail_emptyCondition {f : Phrase} (sought : emptyCondition.sought f) :
    ∃ tail, f.chars = 'i' :: 'f' :: tail ∧
      ∀ c ∈ tail, c ∈ ['(', '{', '}', ')'] ∨ whiteSpace.contains c = true := by
  obtain ⟨a, b, d, f, members, rfl⟩ := sought
  refine ⟨_, rfl, fun c mem => ?_⟩
  by_cases white : whiteSpace.contains c = true
  · exact .inr white
  · have loud (w : List Char) (hw : ∀ x ∈ w, x ∈ a ++ b ++ d ++ f) : c ∉ w :=
      fun h => white (members c (hw c h))
    have ha := loud a (by simp +contextual)
    have hb := loud b (by simp +contextual)
    have hd := loud d (by simp +contextual)
    have hf := loud f (by simp +contextual)
    simp only [List.mem_append, List.mem_cons, ha, hb, hd, hf, false_or] at mem
    refine .inl ?_
    simp only [List.mem_cons]
    tauto

theorem mem_emptyCondition {f : Phrase} (sought : emptyCondition.sought f) (mem : c ∈ f.chars) :
    c ∈ ['i', 'f', '(', '{', '}', ')'] ∨ whiteSpace.contains c = true := by
  obtain ⟨tail, chars, members⟩ := exists_tail_emptyCondition sought
  rw [chars, List.mem_cons, List.mem_cons] at mem
  rcases mem with rfl | rfl | mem
  · exact .inl (by decide)
  · exact .inl (by decide)
  · exact (members c mem).imp_left fun mem => List.mem_cons_of_mem _ (List.mem_cons_of_mem _ mem)

theorem not_mem_emptyCondition {f : Phrase} (sought : emptyCondition.sought f)
    (loud : c ∉ ['i', 'f', '(', '{', '}', ')'] ∧ ¬ whiteSpace.contains c = true) : c ∉ f.chars :=
  fun mem => (mem_emptyCondition sought mem).elim loud.1 loud.2

theorem head?_emptyCondition {f : Phrase} (sought : emptyCondition.sought f) :
    f.chars.head? = some 'i' := by
  obtain ⟨a, b, d, f, -, rfl⟩ := sought
  rfl

theorem getLast?_emptyCondition {f : Phrase} (sought : emptyCondition.sought f) :
    f.chars.getLast? = some ')' := by
  obtain ⟨a, b, d, f, -, rfl⟩ := sought
  rw [Phrase.plain, show 'i' :: 'f' :: (a ++ '(' :: (b ++ '{' :: (d ++ '}' :: (f ++ [')'])))) =
    ('i' :: 'f' :: (a ++ '(' :: (b ++ '{' :: (d ++ '}' :: f)))) ++ [')'] by simp,
    List.getLast?_concat]

theorem at_emptyCondition {f : Phrase} (sought : emptyCondition.sought f) (before after : List Char) :
    f.At before after := by
  obtain ⟨a, b, d, f, -, rfl⟩ := sought
  exact ⟨trivial, trivial⟩

theorem spares_emptyCondition (solid : e.Solid) (hput : e.put = u ++ c :: v)
    (hc : c ∉ ['i', 'f', '(', '{', '}', ')']) (hc' : ¬ whiteSpace.contains c = true)
    (hu : ')' ∉ u) (hv : 'i' ∉ v) : e.Spares emptyCondition := by
  refine Edit.spares_of_pivot solid hput solid_emptyCondition ?_ ?_ ?_ ?_ ?_
  · intro f sought
    exact not_mem_emptyCondition sought ⟨hc, hc'⟩
  · intro f sought x hx heq
    exact hu (Option.some.inj ((getLast?_emptyCondition sought).symm.trans heq) ▸ hx)
  · intro f sought x hx heq
    exact hv (Option.some.inj ((head?_emptyCondition sought).symm.trans heq) ▸ hx)
  · intro f sought _ _ _
    obtain ⟨a, b, d, f, -, rfl⟩ := sought
    trivial
  · intro f sought _ _ _
    obtain ⟨a, b, d, f, -, rfl⟩ := sought
    trivial

theorem trailing_spare_emptyCondition : ∀ e ∈ trailingEdits, e.Spares emptyCondition := by
  intro e he
  simp only [trailingEdits, List.mem_cons, List.not_mem_nil, or_false] at he
  rcases he with rfl | rfl | rfl
  · have hput : emptyCondition.put = "if (f".toList ++ 'a' :: "lse)".toList := rfl
    exact spares_emptyCondition solid_emptyCondition hput (by decide) (by decide) (by decide)
      (by decide)
  · have hput : consoleLog.put = [] ++ 'c' :: "onsole.warn(".toList := rfl
    exact spares_emptyCondition solid_consoleLog hput (by decide) (by decide) (by decide) (by decide)
  · have hput : unusedPrefix.put = [] ++ '_' :: [] := rfl
    exact spares_emptyCondition solid_unusedPrefix hput (by decide) (by decide) (by decide)
      (by decide)

theorem spare_consoleLog : ∀ e ∈ [consoleLog, unusedPrefix], e.Spares consoleLog := by
  have spares {e : Edit} {c : Char} {u v : List Char} (solid : e.Solid) (hput : e.put = u ++ c :: v)
      (hc : c ∉ "console.log(".toList) (hu : '(' ∉ u) (hv : 'c' ∉ v) : e.Spares consoleLog := by
    refine Edit.spares_of_pivot solid hput solid_consoleLog ?_ ?_ ?_ ?_ ?_
    · intro _ same
      subst same
      exact hc
    · intro _ same d hd heq
      subst same
      have last : "console.log(".toList.getLast? = some '(' := by decide
      exact hu (Option.some.inj (last.symm.trans heq) ▸ hd)
    · intro _ same d hd heq
      subst same
      have head : "console.log(".toList.head? = some 'c' := by decide
      exact hv (Option.some.inj (head.symm.trans heq) ▸ hd)
    · intro _ same _ _ _
      subst same
      trivial
    · intro _ same _ _ _
      subst same
      trivial
  intro e he
  simp only [List.mem_cons, List.not_mem_nil, or_false] at he
  cases he with
  | inl same =>
    subst same
    have hput : consoleLog.put = "console.".toList ++ 'w' :: "arn(".toList := rfl
    exact spares solid_consoleLog hput (by decide) (by decide) (by decide)
  | inr same =>
    subst same
    have hput : unusedPrefix.put = [] ++ '_' :: [] := rfl
    exact spares solid_unusedPrefix hput (by decide) (by decide) (by decide)

theorem unusedPrefix_spares_self : unusedPrefix.Spares unusedPrefix := by
  have hput : unusedPrefix.put = [] ++ '_' :: [] := rfl
  refine Edit.spares_of_pivot solid_unusedPrefix hput solid_unusedPrefix ?_ ?_ ?_ ?_ ?_
  · intro _ same
    subst same
    decide
  · intro _ same d hd
    subst same
    exact absurd hd List.not_mem_nil
  · intro _ same d hd
    subst same
    exact absurd hd List.not_mem_nil
  · intro _ same _ _ left
    subst same
    exact absurd (show Word (some '_') by decide) left
  · intro _ same _ same _
    subst same
    subst same
    exact show Word (some 'u') by decide

/-- Each edit cleans texts for itself and keeps them clean for those before it. -/
def Forward (es : List Edit) : Prop :=
  (∀ e ∈ es, e.Cleans) ∧ es.Pairwise fun a e => e.Keeps a

theorem Forward.sublist {es es' : List Edit} (h : Forward es) (sub : es'.Sublist es) : Forward es' :=
  ⟨fun e he => h.1 e (sub.subset he), h.2.sublist sub⟩

theorem Forward.cons {es : List Edit} {a : Edit} (h : Forward es)
    (solid : ∀ e ∈ a :: es, e.Solid) (spares : ∀ e ∈ a :: es, e.Spares a) : Forward (a :: es) := by
  obtain ⟨solidHead, solidTail⟩ := List.forall_mem_cons.mp solid
  obtain ⟨head, tail⟩ := List.forall_mem_cons.mp spares
  refine ⟨List.forall_mem_cons.mpr ⟨head.cleans solidHead, h.1⟩, List.pairwise_cons.mpr ⟨?_, h.2⟩⟩
  intro e he
  exact (tail e he).keeps (solidTail e he)

/-- The fixed edits, those of the leading rules first. -/
theorem forward_fixed : Forward (leadingEdits ++ trailingEdits) := by
  have unused : Forward [unusedPrefix] := by
    refine Forward.cons ⟨by simp, .nil⟩ ?_ ?_
    · simpa using solid_unusedPrefix
    · simpa using unusedPrefix_spares_self
  have log : Forward [consoleLog, unusedPrefix] :=
    unused.cons (fun e he => solid_trailing e (List.mem_cons_of_mem _ he)) spare_consoleLog
  have trailing : Forward trailingEdits := log.cons solid_trailing trailing_spare_emptyCondition
  have solid : ∀ e ∈ leadingEdits ++ trailingEdits, e.Solid := by
    intro e he
    exact (List.mem_append.mp he).elim (solid_leading e) (solid_trailing e)
  have value : Forward (lookup "value".toList :: trailingEdits) := by
    refine trailing.cons (fun e he => solid e (List.mem_cons_of_mem _ he)) fun e he => ?_
    exact fixed_spare_lookup (by decide) e (List.mem_cons_of_mem _ he)
  exact value.cons solid (fixed_spare_lookup (by decide))

end LintRepair.Catalog
