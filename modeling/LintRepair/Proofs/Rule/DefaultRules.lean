import LintRepair.Proofs.Rule.Runs
import Mathlib.Data.List.Infix
import Mathlib.Data.List.Nodup
import Mathlib.Data.Nat.Find
import Mathlib.Logic.Function.Iterate

/-! # Repeated repair with the default identifiers

Each pass takes a mark from every run in front of a default identifier, and what the fixed rules seek
is gone after one pass. So the length of the longest run bounds the number of passes.
-/

namespace LintRepair.Catalog

open LintRepair.Replacement

variable {text out : List Char} {n m : Nat}

/-- The number of marks in the longest run directly in front of an identifier. -/
def longestRun (identifiers : List String) (text : List Char) : Nat :=
  Nat.findGreatest (fun n => ∃ id ∈ identifiers, marked n id.toList <:+: text) text.length

/-- No run in front of a default identifier has more marks. -/
def Capped (n : Nat) (text : List Char) : Prop :=
  ∀ id ∈ defaultIdentifiers, ¬ (run (n + 1) id.toList).Occurs text

theorem Capped.mono (h : Capped n text) (hm : n ≤ m) : Capped m text := fun id hid occurs =>
  h id hid (occurs_shorter_run occurs (Nat.succ_le_succ hm))

theorem capped_of_not_infix
    (h : ∀ id ∈ defaultIdentifiers, ¬ marked (n + 1) id.toList <:+: text) : Capped n text :=
  fun id hid occurs => h id hid occurs.within

theorem capped_longestRun (text : List Char) :
    Capped (longestRun defaultIdentifiers text) text := by
  refine capped_of_not_infix fun id hid found => ?_
  have bound : longestRun defaultIdentifiers text + 1 ≤ text.length := by
    have := found.length_le
    rw [marked, List.length_append, List.length_replicate] at this
    omega
  have := Nat.le_findGreatest (P := fun n => ∃ id ∈ defaultIdentifiers, marked n id.toList <:+: text)
    bound ⟨id, hid, found⟩
  exact absurd this (Nat.not_succ_le_self _)

/-- All edits but that of an identifier itself make no runs in front of it. -/
theorem foreign_run_of_other {id : String} (hid : id ∈ defaultIdentifiers) (hn : 0 < n) {e : Edit}
    (he : e ∈ leadingEdits ++ trailingEdits ∨
      ∃ other ∈ defaultIdentifiers, other ≠ id ∧ e = negation other.toList) :
    e.Solid ∧ (run n id.toList).Foreign e.hits := by
  cases he with
  | inl he =>
    exact ⟨(List.mem_append.mp he).elim (solid_leading e) (solid_trailing e),
      fixed_foreign_run hid hn e he⟩
  | inr h =>
    obtain ⟨other, hother, ne, rfl⟩ := h
    exact ⟨solid_negation _, default_foreign_run hid hother ne hn⟩

/-- A pass takes a mark from every run. -/
theorem Capped.pass (h : Capped (n + 1) text)
    (pass : Edit.Pass (edits defaultIdentifiers) text out) : Capped n out := by
  intro id hid occurs
  obtain ⟨front, back, split⟩ := List.append_of_mem hid
  have distinct : (front ++ id :: back).Nodup := split ▸ (by decide : defaultIdentifiers.Nodup)
  have others (other : String) (h : other ∈ front ∨ other ∈ back) :
      other ∈ defaultIdentifiers ∧ other ≠ id := by
    rw [split]
    rw [List.nodup_middle, List.nodup_cons] at distinct
    refine ⟨by rcases h with h | h <;> simp [h], ?_⟩
    intro same
    subst same
    exact distinct.1 (List.mem_append.mpr h)
  have negated {e : Edit} {ids : List String} (he : e ∈ negations ids)
      (sub : ∀ other ∈ ids, other ∈ front ∨ other ∈ back) :
      ∃ other ∈ defaultIdentifiers, other ≠ id ∧ e = negation other.toList := by
    obtain ⟨other, hother, rfl⟩ := List.mem_map.mp he
    obtain ⟨listed, ne⟩ := others other (sub other hother)
    exact ⟨other, listed, ne, rfl⟩
  have parts : edits defaultIdentifiers = (leadingEdits ++ negations front) ++
      (negation id.toList :: (negations back ++ trailingEdits)) := by
    simp [edits, negations, split]
  rw [parts] at pass
  obtain ⟨middle, first, rest⟩ := Edit.Pass.append_iff.mp pass
  have inFront (k : Nat) (e : Edit) (he : e ∈ leadingEdits ++ negations front) :
      e.Solid ∧ (run (k + 1) id.toList).Foreign e.hits := by
    refine foreign_run_of_other hid (Nat.succ_pos k) ?_
    cases List.mem_append.mp he with
    | inl he => exact .inl (List.mem_append_left _ he)
    | inr he => exact .inr (negated he fun _ => .inl)
  have behind (k : Nat) (e : Edit) (he : e ∈ negations back ++ trailingEdits) :
      e.Solid ∧ (run (k + 1) id.toList).Foreign e.hits := by
    refine foreign_run_of_other hid (Nat.succ_pos k) ?_
    cases List.mem_append.mp he with
    | inl he => exact .inr (negated he fun _ => .inr)
    | inr he => exact .inl (List.mem_append_right _ he)
  cases rest with
  | @cons _ _ _ next _ head last =>
    have before : ¬ (run (n + 2) id.toList).Occurs middle :=
      first.not_occurs (fun e he => (inFront n e he).1) (fun e he => (inFront _ e he).2) (h id hid)
    have after : ¬ (run (n + 1) id.toList).Occurs next := fun found =>
      before (occurs_longer_run (isName_default hid) (Nat.succ_pos _) head found)
    exact last.not_occurs (fun e he => (behind n e he).1) (fun e he => (behind n e he).2) after occurs

/-- After a pass the fixed rules find nothing. -/
theorem clean_fixed_of_pass (pass : Edit.Pass (edits defaultIdentifiers) text out) :
    ∀ e ∈ leadingEdits ++ trailingEdits, e.Clean out := by
  refine clean_fixed_of_names (List.Sublist.refl _) (List.Sublist.refl _) ?_ pass
  intro e he
  obtain ⟨id, hid, rfl⟩ := List.mem_map.mp he
  exact ⟨id.toList, isName_default hid, rfl⟩

/-- A text without runs and without what the fixed rules seek is left alone. -/
theorem eq_of_capped (pass : Edit.Pass (edits defaultIdentifiers) text out) (h : Capped 0 text)
    (fixed : ∀ e ∈ leadingEdits ++ trailingEdits, e.Clean text) : out = text := by
  refine pass.eq_of_clean fun e he => ?_
  cases List.mem_append.mp he with
  | inl he =>
    cases List.mem_append.mp he with
    | inl he => exact fixed e (List.mem_append_left _ he)
    | inr he =>
      obtain ⟨id, hid, rfl⟩ := List.mem_map.mp he
      rw [(isName_default hid).negation_eq]
      exact Edit.clean_replace_iff.mpr (h id hid)
  | inr he => exact fixed e (List.mem_append_right _ he)

section Iterate

variable {p : Pipeline} {t : String}
  (pass : ∀ t, Edit.Pass (edits defaultIdentifiers) t.toList (p.apply t).toList)
include pass

theorem Capped.iterate (h : Capped n t.toList) (m : Nat) : Capped (n - m) (p.apply^[m] t).toList := by
  induction m with
  | zero => exact h
  | succ m ih =>
    rw [Function.iterate_succ_apply']
    exact (ih.mono (by omega : n - m ≤ n - (m + 1) + 1)).pass (pass _)

theorem Capped.settles (h : Capped n t.toList) :
    p.apply (p.apply^[max n 1] t) = p.apply^[max n 1] t := by
  obtain ⟨m, hm⟩ : ∃ m, max n 1 = m + 1 := ⟨max n 1 - 1, by omega⟩
  have capped := h.iterate pass (max n 1)
  have fixed := clean_fixed_of_pass (pass (p.apply^[m] t))
  have last : p.apply (p.apply^[m] t) = p.apply^[max n 1] t := by
    rw [hm, Function.iterate_succ_apply']
  rw [last] at fixed
  rw [show n - max n 1 = 0 by omega] at capped
  exact String.toList_inj.mp (eq_of_capped (pass _) capped fixed)

end Iterate

/-- The pipeline of the built-in rules makes their edits. -/
theorem exists_default_pipeline : ∃ p, pipeline = .ok p ∧
    ∀ t : String, Edit.Pass (edits defaultIdentifiers) t.toList (p.apply t).toList := by
  have small : ∀ id ∈ defaultIdentifiers,
      (negationExpr id.toList).cost ≤ Pattern.Expr.costLimit := by decide
  obtain ⟨p, hp⟩ := Rule.exists_compileAll (exists_compile_rules small)
  refine ⟨p, hp, fun t => ?_⟩
  rw [Pipeline.toList_apply]
  exact Rule.pass_of_compileAll (realizes_rules defaultIdentifiers) hp _

/-- Repair with the default identifiers comes to rest after as many passes as the longest run in front
    of an identifier has marks, and after one pass in any case. In a text without two marks in front of
    an identifier, one pass does it. -/
theorem pipeline_settles_by_longestRun : ∃ p, pipeline = .ok p ∧ ∀ text : String,
    p.apply (p.apply^[max (longestRun defaultIdentifiers text.toList) 1] text) =
        p.apply^[max (longestRun defaultIdentifiers text.toList) 1] text ∧
      ((∀ id ∈ defaultIdentifiers, ¬ ("!!" ++ id).toList <:+: text.toList) →
        p.apply (p.apply text) = p.apply text) := by
  obtain ⟨p, hp, pass⟩ := exists_default_pipeline
  refine ⟨p, hp, fun text => ⟨(capped_longestRun text.toList).settles pass, fun none => ?_⟩⟩
  have capped : Capped 1 text.toList := capped_of_not_infix fun id hid found =>
    none id hid (by simpa [marked] using found)
  have settled := capped.settles pass
  rwa [Nat.max_self, Function.iterate_one] at settled

theorem pipeline_settles_single_mark : ∃ p, pipeline = .ok p ∧
    p.apply (p.apply "!text") = p.apply "!text" := by
  obtain ⟨p, hp, settles⟩ := pipeline_settles_by_longestRun
  have longer : ∀ id ∈ defaultIdentifiers, "!text".toList.length < ("!!" ++ id).toList.length := by
    decide
  exact ⟨p, hp, (settles "!text").2 fun id hid found =>
    absurd found.length_le (Nat.not_le_of_lt (longer id hid))⟩

end LintRepair.Catalog
