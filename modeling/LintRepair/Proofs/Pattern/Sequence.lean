import LintRepair.Proofs.Pattern.Reading

/-! # Sequences

Expressions in sequence read parts of a text that stand side by side. Single characters in sequence
read the text that they spell.
-/

namespace LintRepair.Text.CharSet

theorem contains_singleton_iff {c d : Char} : (singleton c).contains d = true ↔ d = c := by
  simp only [contains, singleton, inRanges]
  split
  · have : d ≠ c := by rintro rfl; omega
    simpa using this
  · split
    · simpa using Char.toNat_inj.mp (by omega)
    · have : d ≠ c := by rintro rfl; omega
      simpa using this

end LintRepair.Text.CharSet

namespace LintRepair.Pattern.Core

open LintRepair.Text

variable {before read after cs : List Char} {s s' : Slots} {e : Core} {es : List Core}

/-- Expressions in sequence. -/
def sequence : List Core → Core
  | [] => .empty
  | [e] => e
  | e :: es => .cat e (sequence es)

/-- The expressions for the characters of a text. -/
def spelling (cs : List Char) : List Core := cs.map fun c => .set (.singleton c)

theorem ofExpr_ofParts (es : List Expr) : ofExpr (.ofParts es) = sequence (es.map ofExpr) := by
  induction es with
  | nil => rfl
  | cons e es ih =>
    cases es with
    | nil => rfl
    | cons e' es => simp only [Expr.ofParts, ofExpr, ih, List.map_cons, sequence]

theorem reads_sequence_nil_iff : Reads (sequence []) before read after s s' ↔
    read = [] ∧ s' = s := by
  constructor
  · intro h
    cases h with
    | empty => exact ⟨rfl, rfl⟩
  · intro h
    obtain ⟨rfl, rfl⟩ := h
    exact .empty

theorem reads_sequence_cons_iff : Reads (sequence (e :: es)) before read after s s' ↔
    ∃ first second s₁, read = first ++ second ∧ Reads e before first (second ++ after) s s₁ ∧
      Reads (sequence es) (before ++ first) second after s₁ s' := by
  cases es with
  | nil =>
    simp only [reads_sequence_nil_iff]
    constructor
    · intro h
      exact ⟨read, [], s', by simp, h, rfl, rfl⟩
    · intro h
      obtain ⟨first, second, s₁, rfl, h, rfl, rfl⟩ := h
      simpa [sequence] using h
  | cons e' es => exact reads_cat_iff

/-- A text that is spelled out is read as it is. -/
theorem reads_spelling_append_iff :
    Reads (sequence (spelling cs ++ es)) before read after s s' ↔
      ∃ second, read = cs ++ second ∧ Reads (sequence es) (before ++ cs) second after s s' := by
  induction cs generalizing before read with
  | nil => simp [spelling]
  | cons c cs ih =>
    change Reads (sequence (.set (.singleton c) :: (spelling cs ++ es))) _ _ _ _ _ ↔ _
    rw [reads_sequence_cons_iff]
    constructor
    · intro h
      obtain ⟨first, second, s₁, rfl, head, tail⟩ := h
      obtain ⟨⟨d, member, rfl⟩, rfl⟩ := reads_set_iff.mp head
      obtain rfl := CharSet.contains_singleton_iff.mp member
      obtain ⟨rest, rfl, others⟩ := ih.mp tail
      exact ⟨rest, rfl, by simpa using others⟩
    · intro h
      obtain ⟨rest, rfl, tail⟩ := h
      have head : Reads (.set (.singleton c)) before [c] (cs ++ rest ++ after) s s :=
        .set (CharSet.contains_singleton_iff.mpr rfl)
      exact ⟨[c], cs ++ rest, s, rfl, head, ih.mpr ⟨rest, rfl, by simpa using tail⟩⟩

theorem reads_spelling_iff :
    Reads (sequence (spelling cs)) before read after s s' ↔ read = cs ∧ s' = s := by
  rw [← List.append_nil (spelling cs), reads_spelling_append_iff]
  simp only [reads_sequence_nil_iff]
  constructor
  · intro h
    obtain ⟨second, rfl, rfl, rfl⟩ := h
    exact ⟨List.append_nil _, rfl⟩
  · intro h
    obtain ⟨rfl, rfl⟩ := h
    exact ⟨[], (List.append_nil _).symm, rfl, rfl⟩

end LintRepair.Pattern.Core
