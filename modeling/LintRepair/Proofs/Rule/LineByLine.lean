import LintRepair.Proofs.Replacement.Barrier
import LintRepair.Proofs.Rule.DefaultRules
import LintRepair.Proofs.Rule.OnePass
import LintRepair.Proofs.Rule.Reordering

/-! # Repair line by line

Of the built-in rules only the one for conditions on an empty object can match across a line break, and no
rule in front of it makes such a match. Where it does not, the pipeline repairs what is before the break and
what is behind it on their own.
-/

namespace LintRepair.Catalog

open LintRepair.Text LintRepair.Pattern LintRepair.Pattern.Core LintRepair.Replacement

variable {text a b out outBefore outAfter u v : List Char} {c : Char} {i : Nat} {e : Edit} {f : Phrase}

/-! Matches of the rule for conditions on an empty object -/

/-- A match of the rule for conditions on an empty object holds the character at a place of a text. -/
def InCondition (text : List Char) (i : Nat) : Prop :=
  ∃ rule ∈ trailing, rule.id = "empty-object-condition" ∧
    ∃ e names m, Regex.meaning? rule.pattern.toList = some (e, names) ∧
      e.meaning.Matches text m ∧ m.start ≤ i ∧ i < m.stop

theorem matches_condition_iff {rule : Rule}
    (compiled : Regex.compile rule.pattern = .ok ⟨sequence conditionParts, []⟩)
    (template : parts rule.replacement.toList = "if (false)".toList.map .char) :
    (∃ e names m, Regex.meaning? rule.pattern.toList = some (e, names) ∧
        e.meaning.Matches text m ∧ m.start ≤ i ∧ i < m.stop) ↔
      ∃ f p q, emptyCondition.sought f ∧ text = p ++ (f.chars ++ q) ∧ p.length ≤ i ∧
        i < (p ++ f.chars).length := by
  have hit {before old after new : List Char} :
      CompiledRule.Hit ⟨rule, ⟨sequence conditionParts, []⟩, none⟩ before old after new ↔
        emptyCondition.hits before old after new := hit_emptyCondition_iff template
  obtain ⟨meant, names, described, same⟩ := Regex.compile_eq_ok compiled
  obtain ⟨core, rfl⟩ := Regex.mk.inj same
  simp only [core] at hit
  constructor
  · rintro ⟨e, _, m, described', ⟨before, read, after, rfl, start, stop, reads⟩, lower, upper⟩
    obtain ⟨rfl, -⟩ := Prod.mk.inj (Option.some.inj (described.symm.trans described'))
    rw [← meaning_ofExpr] at reads
    obtain ⟨f, sought, -, rfl, -⟩ := hit.mp ⟨m.slots, reads, rfl⟩
    exact ⟨f, before, after, sought, rfl, start ▸ lower, stop ▸ upper⟩
  · rintro ⟨f, p, q, sought, rfl, lower, upper⟩
    obtain ⟨slots, reads, -⟩ := hit.mpr ⟨f, sought, at_emptyCondition sought p q, rfl, rfl⟩
    refine ⟨meant, [], ⟨p.length, (p ++ f.chars).length, slots⟩, described, ?_, lower, upper⟩
    rw [← meaning_ofExpr]
    exact ⟨p, f.chars, q, rfl, rfl, rfl, reads⟩

theorem inCondition_iff : InCondition text i ↔ ∃ f p q, emptyCondition.sought f ∧
    text = p ++ (f.chars ++ q) ∧ p.length ≤ i ∧ i < (p ++ f.chars).length := by
  obtain ⟨compiled, -⟩ := List.cons.inj compile_trailing
  have condition := @matches_condition_iff text i _ compiled (by decide)
  constructor
  · rintro ⟨rule, listed, id, found⟩
    simp only [trailing, List.mem_cons, List.not_mem_nil, or_false] at listed
    rcases listed with rfl | rfl | rfl
    · exact condition.mp found
    · exact absurd id (by decide)
    · exact absurd id (by decide)
  · intro found
    exact ⟨_, List.mem_cons_self, rfl, condition.mpr found⟩

/-- Whether a place is in a condition, one finds out with the scanner for conditions. -/
theorem inCondition_iff_scanner : InCondition text i ↔ ∃ start ∈ List.range (i + 1),
    ∃ size ∈ emptyConditionScanner.size? none (text.drop start), i < start + size := by
  simp only [inCondition_iff, List.mem_range, Option.mem_def, size?_emptyCondition_eq_some_iff]
  constructor
  · rintro ⟨f, p, q, sought, rfl, lower, upper⟩
    rw [List.length_append] at upper
    refine ⟨p.length, Nat.lt_succ_of_le lower, _, ⟨f, q, sought, ?_, rfl⟩, upper⟩
    rw [List.drop_left]
  · rintro ⟨start, lower, _, ⟨f, after, sought, split, rfl⟩, upper⟩
    have nonempty := List.length_pos_iff.mpr (solid_emptyCondition f sought)
    have within : start ≤ text.length := by
      have := congrArg List.length split
      rw [List.length_drop, List.length_append] at this
      omega
    have length : (text.take start).length = start := List.length_take_of_le within
    refine ⟨f, text.take start, after, sought, ?_, ?_, ?_⟩
    · rw [← split, List.take_append_drop]
    · omega
    · rw [List.length_append]
      omega

instance : Decidable (InCondition text i) := decidable_of_iff _ inCondition_iff_scanner.symm

theorem InCondition.append_left (h : InCondition text i) (before : List Char) :
    InCondition (before ++ text) (before.length + i) := by
  rw [inCondition_iff] at h ⊢
  obtain ⟨f, p, q, sought, rfl, lower, upper⟩ := h
  refine ⟨f, before ++ p, q, sought, by simp, ?_, ?_⟩
  · rw [List.length_append]
    omega
  · rw [List.append_assoc, List.length_append]
    omega

theorem inCondition_of_crosses (h : emptyCondition.Crosses a c b) :
    InCondition (a ++ c :: b) a.length := by
  obtain ⟨f, u, v, p, q, sought, chars, rfl, rfl, -⟩ := h
  refine inCondition_iff.mpr ⟨f, p, q, sought, by simp [chars], by simp, ?_⟩
  simp only [chars, List.length_append, List.length_cons]
  omega

/-- A condition ends in a bracket, so none ends with a line break. -/
theorem not_crosses_last (hc : c ≠ ')') : ¬emptyCondition.Crosses a c [] := by
  rintro ⟨f, u, v, p, q, sought, chars, -, rest, -⟩
  obtain rfl := (List.append_eq_nil_iff.mp rest.symm).1
  have last := getLast?_emptyCondition sought
  rw [chars, List.getLast?_concat] at last
  exact hc (Option.some.inj last)

/-! Edits and line breaks -/

/-- The characters that break lines. -/
def IsBreak (c : Char) : Prop := c = '\n' ∨ c = '\r'

theorem isBreak_lineFeed : IsBreak '\n' := .inl rfl

theorem isBreak_return : IsBreak '\r' := .inr rfl

theorem endsAt_of_looksAt (looks : e.LooksAt Word) (hc : IsBreak c) : e.EndsAt c := by
  have silent : ¬Word (some c) := by
    rcases hc with rfl | rfl <;> decide
  have same : Word (some c) ↔ Word none := iff_of_false silent not_word_none
  exact ⟨fun f sought => (looks f sought _ _ same).1, fun f sought => (looks f sought _ _ same).2⟩

theorem looksAt_negation (cs : List Char) : (negation cs).LooksAt Word := by
  rintro _ rfl c d kinds
  exact ⟨Iff.rfl, by simp only [kinds]⟩

theorem endsAt_fixed (hc : IsBreak c) (he : e ∈ leadingEdits ++ trailingEdits) : e.EndsAt c :=
  endsAt_of_looksAt (regular_fixed e he).looks hc

theorem lacks_replace {put : List Char} (absent : '\n' ∉ f.chars ∧ '\r' ∉ f.chars)
    (hc : IsBreak c) : (Edit.replace f put).Lacks c := by
  rintro _ rfl
  rcases hc with rfl | rfl
  · exact absent.1
  · exact absent.2

/-- The edits in front of that for conditions. -/
def frontEdits : List Edit := leadingEdits ++ negations defaultIdentifiers

theorem parted_front (hc : IsBreak c) :
    ∀ e ∈ frontEdits, e.Scannable ∧ e.EndsAt c ∧ e.Lacks c := by
  intro e he
  rcases List.mem_append.mp he with he | he
  · have fixed := List.mem_append_left trailingEdits he
    refine ⟨scannable_fixed e fixed, endsAt_fixed hc fixed, ?_⟩
    obtain ⟨key, hkey, rfl⟩ := List.mem_map.mp he
    have absent : ∀ key ∈ keys, '\n' ∉ '[' :: key ++ "] ||".toList ∧
        '\r' ∉ '[' :: key ++ "] ||".toList := by decide
    exact lacks_replace (absent key hkey) hc
  · obtain ⟨id, hid, rfl⟩ := List.mem_map.mp he
    have absent : ∀ id ∈ defaultIdentifiers,
        '\n' ∉ '!' :: id.toList ∧ '\r' ∉ '!' :: id.toList := by decide
    exact ⟨scannable_negation (isName_default hid).nonempty,
      endsAt_of_looksAt (looksAt_negation id.toList) hc, lacks_replace (absent id hid) hc⟩

theorem parted_behind (hc : IsBreak c) :
    ∀ e ∈ [consoleLog, unusedPrefix], e.Scannable ∧ e.EndsAt c ∧ e.Lacks c := by
  intro e he
  have fixed : e ∈ leadingEdits ++ trailingEdits :=
    List.mem_append_right _ (List.mem_cons_of_mem _ he)
  refine ⟨scannable_fixed e fixed, endsAt_fixed hc fixed, ?_⟩
  simp only [List.mem_cons, List.not_mem_nil, or_false] at he
  rcases he with rfl | rfl
  · exact lacks_replace (by decide) hc
  · exact lacks_replace (by decide) hc

/-- Behind a line break in a condition there are no letters. -/
theorem mem_behind_break (hc : IsBreak c) (sought : emptyCondition.sought f)
    (chars : f.chars = u ++ c :: v) {d : Char} (hd : d ∈ v) :
    d ∈ ['(', '{', '}', ')'] ∨ whiteSpace.contains d = true := by
  obtain ⟨tail, split, members⟩ := exists_tail_emptyCondition sought
  obtain ⟨first, second⟩ : c ≠ 'i' ∧ c ≠ 'f' := by
    rcases hc with rfl | rfl <;> decide
  refine members d ?_
  rw [split] at chars
  match u with
  | [] => exact absurd (List.cons.inj chars).1.symm first
  | [x] => exact absurd (List.cons.inj (List.cons.inj chars).2).1.symm second
  | x :: y :: u =>
    rw [(List.cons.inj (List.cons.inj chars).2).2]
    exact List.mem_append_right u (List.mem_cons_of_mem c hd)

theorem frames_front (hc : IsBreak c) (sought : emptyCondition.sought f)
    (chars : f.chars = u ++ c :: v) : ∀ e ∈ frontEdits, e.Frames u v := by
  have front {d : Char} (other : d ∉ ['i', 'f', '(', '{', '}', ')'])
      (loud : ¬whiteSpace.contains d = true) : d ∉ u := fun mem =>
    not_mem_emptyCondition sought ⟨other, loud⟩ (by simp [chars, mem])
  have behind {d : Char} (other : d ∉ ['(', '{', '}', ')']) (loud : ¬whiteSpace.contains d = true) :
      d ∉ v := fun mem => (mem_behind_break hc sought chars mem).elim other loud
  intro e he
  rcases List.mem_append.mp he with he | he
  · obtain ⟨key, -, rfl⟩ := List.mem_map.mp he
    exact ⟨⟨'?', rfl, front (by decide) (by decide)⟩, ⟨'[', rfl, behind (by decide) (by decide)⟩⟩
  · obtain ⟨id, hid, rfl⟩ := List.mem_map.mp he
    have heads : ∀ id ∈ defaultIdentifiers, (id.toList.head?.all fun d =>
        !(['(', '{', '}', ')'].contains d || whiteSpace.contains d)) = true := by decide
    have last : (negation id.toList).put.getLast? = some 'l' :=
      getLast?_append_of_ne_nil (List.cons_ne_nil _ _)
    have nonempty := (isName_default hid).nonempty
    have first : (negation id.toList).put.head? = some (id.toList.head nonempty) :=
      (head?_append_of_ne_nil nonempty).trans (List.head?_eq_some_head nonempty)
    have head := heads id hid
    rw [List.head?_eq_some_head nonempty] at head
    obtain ⟨other, loud⟩ : id.toList.head nonempty ∉ ['(', '{', '}', ')'] ∧
        ¬whiteSpace.contains (id.toList.head nonempty) = true := by simpa using head
    exact ⟨⟨'l', last, front (by decide) (by decide)⟩, ⟨_, first, behind other loud⟩⟩

/-- A pass repairs what is before a line break and what is behind it on their own, unless a condition lies
    across the break. -/
theorem pass_parted (hc : IsBreak c) (free : ¬emptyCondition.Crosses a c b)
    (whole : Edit.Pass (edits defaultIdentifiers) (a ++ c :: b) out)
    (before : Edit.Pass (edits defaultIdentifiers) a outBefore)
    (after : Edit.Pass (edits defaultIdentifiers) b outAfter) :
    out = outBefore ++ c :: outAfter := by
  have parts : edits defaultIdentifiers = frontEdits ++ emptyCondition :: [consoleLog, unusedPrefix] :=
    rfl
  rw [parts] at whole before after
  obtain ⟨_, wholeFront, whole⟩ := Edit.Pass.append_iff.mp whole
  obtain ⟨_, beforeFront, before⟩ := Edit.Pass.append_iff.mp before
  obtain ⟨_, afterFront, after⟩ := Edit.Pass.append_iff.mp after
  have free : ¬emptyCondition.Crosses _ c _ := fun crosses => free <|
    Edit.Pass.crosses (fun f sought p q => at_emptyCondition sought p q)
      (fun f u v sought chars => frames_front hc sought chars) beforeFront afterFront crosses
  rw [Edit.Pass.parted (parted_front hc) wholeFront beforeFront afterFront] at whole
  have condition : emptyCondition ∈ leadingEdits ++ trailingEdits := by simp [trailingEdits]
  cases whole with
  | cons whole wholeBehind =>
    cases before with
    | cons before beforeBehind =>
      cases after with
      | cons after afterBehind =>
        rw [whole.parted (scannable_fixed _ condition) (endsAt_fixed hc condition) free before after]
          at wholeBehind
        exact Edit.Pass.parted (parted_behind hc) wholeBehind beforeBehind afterBehind

/-! Lines -/

/-- How a line ends. -/
inductive LineEnd where
  | lf
  | crlf
  deriving DecidableEq, Repr

/-- What stands in front of the line feed. -/
def LineEnd.mark : LineEnd → String
  | .lf => ""
  | .crlf => "\r"

/-- A text and the line break behind it. The text may have line breaks of its own. -/
structure Line where
  text : String
  ending : LineEnd
  deriving DecidableEq, Repr

/-- Lines with their breaks, and text behind the last break. -/
def joined : List Line → String → String
  | [], last => last
  | line :: lines, last => line.text ++ line.ending.mark ++ "\n" ++ joined lines last

/-- No break between the lines is in a condition. -/
def Parted (lines : List Line) (last : String) : Prop :=
  ∀ n, (h : n < lines.length) → ¬InCondition (joined lines last).toList
    (joined (lines.take n) (lines[n].text ++ lines[n].ending.mark)).toList.length

instance {lines : List Line} {last : String} : Decidable (Parted lines last) :=
  inferInstanceAs (Decidable (∀ n, (h : n < lines.length) → _))

/-- The lines after repair, with the same breaks. -/
def Line.repaired (p : Pipeline) (line : Line) : Line := ⟨p.apply line.text, line.ending⟩

section Lines

variable {line : Line} {lines : List Line} {last : String} {p : Pipeline}

theorem toList_joined_cons (line : Line) (lines : List Line) (last : String) :
    (joined (line :: lines) last).toList =
      (line.text ++ line.ending.mark).toList ++ '\n' :: (joined lines last).toList := by
  simp [joined]

theorem Parted.head (h : Parted (line :: lines) last) :
    ¬InCondition ((line.text ++ line.ending.mark).toList ++ '\n' :: (joined lines last).toList)
      (line.text ++ line.ending.mark).toList.length := by
  have first := h 0 (Nat.succ_pos _)
  rwa [toList_joined_cons] at first

theorem Parted.tail (h : Parted (line :: lines) last) : Parted lines last := by
  intro n hn inside
  refine h (n + 1) (Nat.succ_lt_succ hn) ?_
  have shifted := inside.append_left ((line.text ++ line.ending.mark).toList ++ ['\n'])
  rw [List.take_succ_cons, toList_joined_cons, toList_joined_cons, List.length_append, List.length_cons]
  rw [List.append_assoc, List.length_append, List.length_singleton, Nat.add_assoc, Nat.add_comm 1]
    at shifted
  exact shifted

variable (pass : ∀ t : String, Edit.Pass (edits defaultIdentifiers) t.toList (p.apply t).toList)
include pass

/-- The pipeline repairs what is before a line break and what is behind it on their own, unless a condition
    lies across the break. -/
theorem apply_parted (a b : String)
    (free : ¬InCondition (a ++ "\n" ++ b).toList a.toList.length) :
    p.apply (a ++ "\n" ++ b) = p.apply a ++ "\n" ++ p.apply b := by
  have split : (a ++ "\n" ++ b).toList = a.toList ++ '\n' :: b.toList := by simp
  have whole := pass (a ++ "\n" ++ b)
  rw [split] at whole free
  have parted := pass_parted isBreak_lineFeed (fun crosses => free (inCondition_of_crosses crosses)) whole
    (pass a) (pass b)
  exact String.toList_inj.mp (by simpa using parted)

theorem apply_empty : p.apply "" = "" := by
  have scannable : ∀ e ∈ edits defaultIdentifiers, e.Scannable := by
    intro e he
    rcases List.mem_append.mp he with he | he
    · exact (parted_front isBreak_lineFeed e he).1
    · exact scannable_fixed e (List.mem_append_right _ he)
  exact String.toList_eq_nil_iff.mp ((pass "").eq_nil scannable)

theorem apply_mark (a : String) (ending : LineEnd) :
    p.apply (a ++ ending.mark) = p.apply a ++ ending.mark := by
  cases ending with
  | lf => simp [LineEnd.mark]
  | crlf =>
    have split : (a ++ LineEnd.crlf.mark).toList = a.toList ++ '\r' :: "".toList := by
      simp [LineEnd.mark]
    have whole := pass (a ++ LineEnd.crlf.mark)
    rw [split] at whole
    have parted := pass_parted isBreak_return (not_crosses_last (by decide)) whole (pass a) (pass "")
    rw [apply_empty pass] at parted
    exact String.toList_inj.mp (by simpa [LineEnd.mark] using parted)

/-- The pipeline repairs lines on their own and keeps the breaks between them, if none of these is in a
    condition. -/
theorem apply_joined (h : Parted lines last) :
    p.apply (joined lines last) = joined (lines.map (Line.repaired p)) (p.apply last) := by
  induction lines with
  | nil => rfl
  | cons line lines ih =>
    have free : ¬InCondition (line.text ++ line.ending.mark ++ "\n" ++ joined lines last).toList
        (line.text ++ line.ending.mark).toList.length := by
      have head := h.head
      rwa [← toList_joined_cons] at head
    rw [joined, apply_parted pass _ _ free, apply_mark pass, ih h.tail]
    rfl

end Lines

end LintRepair.Catalog
