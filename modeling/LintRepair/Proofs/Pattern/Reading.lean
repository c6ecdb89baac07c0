import LintRepair.Pattern.Search

/-! # What an expression reads

An expression is given its meaning without a program: between the text before a place and the text
after it, it reads a part of the text and records where its groups start and stop. Preference plays
no part here, so an expression may have several readings at a place.
-/

namespace LintRepair.Pattern

open LintRepair.Text

/-- `e.Reads before read after s s'`: between `before` and `after` the expression can read `read`,
    which takes the recorded positions from `s` to `s'`. -/
inductive Core.Reads : Core → List Char → List Char → List Char → Slots → Slots → Prop where
  | empty {before after s} : Reads .empty before [] after s s
  | set {chars c before after s} (member : chars.contains c = true) :
      Reads (.set chars) before [c] after s s
  | look {l before after s} (holds : l.between before.getLast? after.head? = true) :
      Reads (.look l) before [] after s s
  | group {index e before read after s s'}
      (body : Reads e before read after ((2 * index, before.length) :: s) s') :
      Reads (.group index e) before read after s ((2 * index + 1, (before ++ read).length) :: s')
  | cat {a b before first second after s s' s''}
      (left : Reads a before first (second ++ after) s s')
      (right : Reads b (before ++ first) second after s' s'') :
      Reads (.cat a b) before (first ++ second) after s s''
  | altFirst {a b before read after s s'} (left : Reads a before read after s s') :
      Reads (.alt a b) before read after s s'
  | altSecond {a b before read after s s'} (right : Reads b before read after s s') :
      Reads (.alt a b) before read after s s'
  | optNone {greedy e before after s} : Reads (.opt greedy e) before [] after s s
  | optSome {greedy e before read after s s'} (body : Reads e before read after s s') :
      Reads (.opt greedy e) before read after s s'
  | starNone {greedy e before after s} : Reads (.star greedy e) before [] after s s
  | starMore {greedy e before first second after s s' s''}
      (body : Reads e before first (second ++ after) s s')
      (more : Reads (.star greedy e) (before ++ first) second after s' s'') :
      Reads (.star greedy e) before (first ++ second) after s s''
  | plusOnce {greedy e before read after s s'} (body : Reads e before read after s s') :
      Reads (.plus greedy e) before read after s s'
  | plusMore {greedy e before first second after s s' s''}
      (body : Reads e before first (second ++ after) s s')
      (more : Reads (.plus greedy e) (before ++ first) second after s' s'') :
      Reads (.plus greedy e) before (first ++ second) after s s''

namespace Core

variable {before read after rest : List Char} {s s' : Slots} {chars : CharSet} {greedy : Bool}

theorem reads_set_iff :
    Reads (.set chars) before read after s s' ↔
      (∃ c, chars.contains c = true ∧ read = [c]) ∧ s' = s := by
  constructor
  · intro h
    cases h with
    | set member => exact ⟨⟨_, member, rfl⟩, rfl⟩
  · intro h
    obtain ⟨⟨c, member, rfl⟩, rfl⟩ := h
    exact .set member

theorem reads_look_iff {l : Look} :
    Reads (.look l) before read after s s' ↔
      l.between before.getLast? after.head? = true ∧ read = [] ∧ s' = s := by
  constructor
  · intro h
    cases h with
    | look holds => exact ⟨holds, rfl, rfl⟩
  · intro h
    obtain ⟨holds, rfl, rfl⟩ := h
    exact .look holds

theorem reads_group_iff {index : Nat} {e : Core} :
    Reads (.group index e) before read after s s' ↔
      ∃ s₁, Reads e before read after ((2 * index, before.length) :: s) s₁ ∧
        s' = (2 * index + 1, (before ++ read).length) :: s₁ := by
  constructor
  · intro h
    cases h with
    | group body => exact ⟨_, body, rfl⟩
  · intro h
    obtain ⟨s₁, body, rfl⟩ := h
    exact .group body

theorem reads_cat_iff {a b : Core} :
    Reads (.cat a b) before read after s s' ↔
      ∃ first second s₁, read = first ++ second ∧
        Reads a before first (second ++ after) s s₁ ∧
        Reads b (before ++ first) second after s₁ s' := by
  constructor
  · intro h
    cases h with
    | cat left right => exact ⟨_, _, _, rfl, left, right⟩
  · intro h
    obtain ⟨first, second, s₁, rfl, left, right⟩ := h
    exact .cat left right

theorem reads_star_set_iff :
    Reads (.star greedy (.set chars)) before read after s s' ↔
      (∀ c ∈ read, chars.contains c = true) ∧ s' = s := by
  constructor
  · intro h
    generalize he : Core.star greedy (.set chars) = e at h
    induction h with
    | starNone => exact ⟨by simp, rfl⟩
    | starMore body more _ ih =>
      cases he
      obtain ⟨⟨c, member, rfl⟩, rfl⟩ := reads_set_iff.mp body
      obtain ⟨members, rfl⟩ := ih rfl
      exact ⟨by simpa using ⟨member, members⟩, rfl⟩
    | _ => cases he
  · intro h
    obtain ⟨members, rfl⟩ := h
    induction read generalizing before with
    | nil => exact .starNone
    | cons c read ih =>
      have tail : Reads (.star greedy (.set chars)) (before ++ [c]) read after s' s' :=
        ih fun d hd => members d (List.mem_cons_of_mem _ hd)
      have head : Reads (.set chars) before [c] (read ++ after) s' s' :=
        .set (members c List.mem_cons_self)
      exact .starMore head tail

theorem reads_plus_set_iff :
    Reads (.plus greedy (.set chars)) before read after s s' ↔
      read ≠ [] ∧ (∀ c ∈ read, chars.contains c = true) ∧ s' = s := by
  constructor
  · intro h
    generalize he : Core.plus greedy (.set chars) = e at h
    induction h with
    | plusOnce body =>
      cases he
      obtain ⟨⟨c, member, rfl⟩, rfl⟩ := reads_set_iff.mp body
      exact ⟨by simp, by simpa using member, rfl⟩
    | plusMore body more _ ih =>
      cases he
      obtain ⟨⟨c, member, rfl⟩, rfl⟩ := reads_set_iff.mp body
      obtain ⟨-, members, rfl⟩ := ih rfl
      exact ⟨by simp, by simpa using ⟨member, members⟩, rfl⟩
    | _ => cases he
  · intro h
    obtain ⟨nonempty, members, rfl⟩ := h
    induction read generalizing before with
    | nil => exact absurd rfl nonempty
    | cons c read ih =>
      have head : Reads (.set chars) before [c] (read ++ after) s' s' :=
        .set (members c List.mem_cons_self)
      by_cases hread : read = []
      · subst hread
        exact .plusOnce head
      · have tail : Reads (.plus greedy (.set chars)) (before ++ [c]) read after s' s' :=
          ih hread fun d hd => members d (List.mem_cons_of_mem _ hd)
        exact .plusMore head tail

end Core

end LintRepair.Pattern
