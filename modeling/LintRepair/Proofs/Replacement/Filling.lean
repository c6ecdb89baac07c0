import LintRepair.Proofs.Replacement.Rewriting

/-! # Filling in templates

The parts of a template are filled in one after the other. An escaped text is a template that stands
for the text, and a reference stands for what its group read.
-/

namespace LintRepair.Replacement

open LintRepair.Pattern

variable {names : List (String × Nat)} {text : Array Char} {m : Span}

private theorem toList_foldl_expand (ps : List Part) (out : Array Char) :
    (ps.foldl (fun out part => out ++ part.expand names text m) out).toList =
      out.toList ++ ps.flatMap fun part => (part.expand names text m).toList := by
  induction ps generalizing out with
  | nil => simp
  | cons p ps ih => simp [ih]

theorem toList_expand (ps : List Part) :
    (expand names text m ps).toList = ps.flatMap fun part => (part.expand names text m).toList := by
  rw [expand, toList_foldl_expand]
  rfl

/-- Parts that are characters stand for these. -/
theorem toList_expand_chars (cs : List Char) :
    (expand names text m (cs.map .char)).toList = cs := by
  rw [toList_expand]
  induction cs with
  | nil => rfl
  | cons c cs ih =>
    rw [List.map_cons, List.flatMap_cons, ih]
    rfl

/-- A reference stands for the part of the text between the positions recorded for its group. -/
theorem toList_expand_group {before read after : List Char} {index : Nat} (ps : List Part)
    (split : text.toList = before ++ (read ++ after)) (hindex : index ≠ 0)
    (hstart : m.slot? (2 * index) = some before.length)
    (hstop : m.slot? (2 * index + 1) = some (before ++ read).length) :
    (expand names text m (.group (.byNumber index) :: ps)).toList =
      read ++ (expand names text m ps).toList := by
  have group : m.group? index = some (before.length, (before ++ read).length) := by
    cases index with
    | zero => exact absurd rfl hindex
    | succ i => simp only [Span.group?, hstart, hstop, Option.bind_eq_bind, Option.bind_some]; rfl
  rw [toList_expand, List.flatMap_cons, ← toList_expand]
  simp only [Part.expand, Reference.index?, groupText, group, toList_extract_of_split split]

theorem partsOf_escape {cs : List Char} {fuel : Nat} (h : cs.length ≤ fuel) :
    partsOf fuel (escape cs) = cs.map .char := by
  induction cs generalizing fuel with
  | nil =>
    cases fuel with
    | zero => rfl
    | succ fuel => rfl
  | cons c cs ih =>
    cases fuel with
    | zero => exact absurd h (Nat.not_succ_le_zero _)
    | succ fuel =>
      have tail := ih (Nat.le_of_succ_le_succ h)
      by_cases hc : c = '$'
      · subst hc
        simp only [escape, if_true, partsOf, tail, List.map_cons]
      · rw [escape, if_neg hc, partsOf, tail, List.map_cons]
        all_goals
          intros
          contradiction

theorem length_le_length_escape (cs : List Char) : cs.length ≤ (escape cs).length := by
  induction cs with
  | nil => exact Nat.le_refl _
  | cons c cs ih =>
    rw [escape]
    split <;> simp only [List.length_cons] <;> omega

/-- An escaped text is a template that stands for the text. -/
theorem parts_escape (cs : List Char) : parts (escape cs) = cs.map .char :=
  partsOf_escape (length_le_length_escape cs)

theorem escape_append (cs ds : List Char) : escape (cs ++ ds) = escape cs ++ escape ds := by
  induction cs with
  | nil => rfl
  | cons c cs ih =>
    simp only [List.cons_append, escape, ih]
    split <;> rfl

/-- A text without dollar signs is its own escaped form. -/
theorem escape_eq_self {cs : List Char} (h : '$' ∉ cs) : escape cs = cs := by
  induction cs with
  | nil => rfl
  | cons c cs ih =>
    have hc : c ≠ '$' := fun hc => h (hc ▸ List.mem_cons_self)
    have hcs : '$' ∉ cs := fun hcs => h (List.mem_cons_of_mem _ hcs)
    rw [escape, if_neg hc, ih hcs]

end LintRepair.Replacement
