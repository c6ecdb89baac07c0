/-! # Marks

A set of small numbers that is emptied in one step: a cell belongs to the set when it holds the
current stamp, and emptying the set moves on to a new stamp.
-/

namespace LintRepair.Pattern

/-- Cells that are marked when they hold the stamp. -/
structure Marks where
  stamp : Nat
  cells : Array Nat

namespace Marks

/-- No marks, on a number of cells. -/
def none (size : Nat) : Marks := ⟨1, Array.replicate size 0⟩

/-- Takes all marks away. -/
def clear (m : Marks) : Marks := { m with stamp := m.stamp + 1 }

/-- The number of cells without a mark. -/
def unmarked (m : Marks) : Nat := m.cells.countP (· != m.stamp)

/-- Whether a cell is marked. What is no cell counts as marked. -/
def isMarked (m : Marks) (i : Nat) : Bool :=
  match m.cells[i]? with
  | some stamp => stamp == m.stamp
  | Option.none => true

/-- Marks a cell. -/
def mark (m : Marks) (i : Nat) : Marks := { m with cells := m.cells.setIfInBounds i m.stamp }

theorem unmarked_mark_lt {m : Marks} {i : Nat} (h : m.isMarked i = false) :
    (m.mark i).unmarked < m.unmarked := by
  unfold isMarked at h
  split at h
  · rename_i stamp hget
    obtain ⟨hi, rfl⟩ := Array.getElem?_eq_some_iff.1 hget
    have hne : (m.cells[i] != m.stamp) = true := by simp [bne, h]
    have hpos : 0 < m.cells.countP (· != m.stamp) :=
      Array.countP_pos_iff.2 ⟨m.cells[i], Array.getElem_mem hi, hne⟩
    simp only [mark, unmarked, Array.setIfInBounds, hi, dite_true, Array.countP_set]
    simp only [hne, if_true, bne_self_eq_false, Bool.false_eq_true, if_false, Nat.add_zero]
    omega
  · simp at h

end Marks

end LintRepair.Pattern
