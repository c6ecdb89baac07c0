import LintRepair.Proofs.Rule.Passes
import Mathlib.Logic.Function.Iterate

/-! # Repeated repair settles

No edit of a built-in rule puts an exclamation mark that it did not take, and those for identifiers
take one more than they put. Two passes either lose an exclamation mark or leave the text alone.
-/

namespace LintRepair

open LintRepair.Pattern LintRepair.Replacement

/-- Steps that lose some of a measure or come to rest do come to rest. -/
theorem iterate_settles {α : Type} {step : α → α} (measure : α → Nat)
    (h : ∀ t, measure (step (step t)) < measure t ∨ step (step t) = step t) (t : α) :
    step (step^[2 * measure t + 1] t) = step^[2 * measure t + 1] t := by
  induction hn : measure t using Nat.strongRecOn generalizing t with
  | ind n ih =>
    cases h t with
    | inl lower =>
      have settled := ih _ (hn ▸ lower) (step (step t)) rfl
      obtain ⟨k, hk⟩ : ∃ k, 2 * n + 1 = k + ((2 * measure (step (step t)) + 1) + 2) :=
        ⟨2 * n + 1 - (2 * measure (step (step t)) + 3), by omega⟩
      have reached : step^[2 * n + 1] t =
          step^[2 * measure (step (step t)) + 1] (step (step t)) := by
        rw [hk, Function.iterate_add_apply, Function.iterate_add_apply _ _ 2]
        exact Function.iterate_fixed settled k
      rw [reached]
      exact settled
    | inr rest =>
      rw [Function.iterate_succ_apply, Function.iterate_fixed rest]
      exact rest

namespace Catalog

theorem drops_negation (cs : List Char) : (negation cs).Drops '!' := by
  intro _ same
  subst same
  have null : " == null".toList.count '!' = 0 := by decide
  simp only [negation, Edit.replace, List.count_append, null, List.count_cons_self]
  omega

theorem drops_negations {identifiers : List String} {e : Edit} (h : e ∈ negations identifiers) :
    e.Drops '!' := by
  obtain ⟨id, -, rfl⟩ := List.mem_map.mp h
  exact drops_negation id.toList

theorem count_put_fixed : ∀ e ∈ leadingEdits ++ trailingEdits, e.put.count '!' = 0 := by
  have leading : ∀ e ∈ leadingEdits, e.put.count '!' = 0 := by
    intro e he
    obtain ⟨key, -, rfl⟩ := List.mem_map.mp he
    exact show "[name] ??".toList.count '!' = 0 by decide
  have trailing : ∀ e ∈ trailingEdits, e.put.count '!' = 0 := by
    refine List.forall_mem_cons.mpr ⟨?_, List.forall_mem_cons.mpr ⟨?_, List.forall_mem_cons.mpr ⟨?_, ?_⟩⟩⟩
    · exact show "if (false)".toList.count '!' = 0 by decide
    · exact show "console.warn(".toList.count '!' = 0 by decide
    · exact show "_".toList.count '!' = 0 by decide
    · simp
  intro e he
  exact (List.mem_append.mp he).elim (leading e) (trailing e)

/-- No edit of a built-in rule puts an exclamation mark that it did not take. -/
theorem lowers_edits {identifiers : List String} {e : Edit} (h : e ∈ edits identifiers) :
    e.Lowers '!' := by
  have fixed (h : e ∈ leadingEdits ++ trailingEdits) : e.Lowers '!' := fun f _ => by
    rw [count_put_fixed e h]
    exact Nat.zero_le _
  cases List.mem_append.mp h with
  | inl h =>
    cases List.mem_append.mp h with
    | inl h => exact fixed (List.mem_append_left _ h)
    | inr h => exact (drops_negations h).lowers
  | inr h => exact fixed (List.mem_append_right _ h)

variable {identifiers : List String} {es leading middle trailing : List Edit}
  {text out out' : List Char}

/-- Enabled edits are fixed ones around some of those for identifiers. -/
theorem exists_parts (sub : es.Sublist (edits identifiers)) : ∃ leading middle trailing,
    es = leading ++ middle ++ trailing ∧ middle.Sublist (negations identifiers) ∧
      (leading ++ trailing).Sublist (leadingEdits ++ trailingEdits) := by
  obtain ⟨front, trailing, rfl, sub, subTrailing⟩ := List.sublist_append_iff.mp sub
  obtain ⟨leading, middle, rfl, subLeading, subMiddle⟩ := List.sublist_append_iff.mp sub
  exact ⟨leading, middle, trailing, rfl, subMiddle, subLeading.append subTrailing⟩

/-- In a pass that keeps all exclamation marks, the edits for identifiers do nothing. -/
theorem pass_fixed_of_count (sub : (leading ++ middle ++ trailing).Sublist (edits identifiers))
    (subMiddle : middle.Sublist (negations identifiers))
    (h : Edit.Pass (leading ++ middle ++ trailing) text out)
    (kept : text.count '!' ≤ out.count '!') : Edit.Pass (leading ++ trailing) text out := by
  have lowers (e : Edit) (he : e ∈ leading ++ middle ++ trailing) : e.Lowers '!' :=
    lowers_edits (sub.subset he)
  obtain ⟨second, front, third⟩ := Edit.Pass.append_iff.mp h
  obtain ⟨first, start, negated⟩ := Edit.Pass.append_iff.mp front
  have afterStart := start.count_le fun e he => lowers e (by simp [he])
  have afterEnd := third.count_le fun e he => lowers e (by simp [he])
  obtain rfl := negated.eq_of_count (fun e he => drops_negations (subMiddle.subset he)) (by omega)
  exact Edit.Pass.append_iff.mpr ⟨second, start, third⟩

/-- Two passes lose an exclamation mark, or the second leaves the text alone. -/
theorem two_passes (sub : es.Sublist (edits identifiers)) (first : Edit.Pass es text out)
    (second : Edit.Pass es out out') : out'.count '!' < text.count '!' ∨ out' = out := by
  have lowers (e : Edit) (he : e ∈ es) : e.Lowers '!' := lowers_edits (sub.subset he)
  have afterFirst := first.count_le lowers
  have afterSecond := second.count_le lowers
  rcases Nat.lt_or_ge (out'.count '!') (text.count '!') with lower | kept
  · exact .inl lower
  obtain ⟨leading, middle, trailing, rfl, subMiddle, subFixed⟩ := exists_parts sub
  have first := pass_fixed_of_count sub subMiddle first (by omega)
  have second := pass_fixed_of_count sub subMiddle second (by omega)
  have forward := forward_fixed.sublist subFixed
  exact .inr (second.eq_of_clean (first.clean_of_pairwise forward.1 forward.2))

end Catalog

namespace Effective

/-- Without extra rules, repair comes to rest after twice as many passes as the text has exclamation
    marks, and one more. -/
theorem pipeline_settles {e : Effective} {p : Pipeline} (none : e.rules = [])
    (h : e.pipeline = .ok p) (text : String) :
    p.apply (p.apply^[2 * text.toList.count '!' + 1] text) =
      p.apply^[2 * text.toList.count '!' + 1] text := by
  obtain ⟨es, sub, pass⟩ := pass_of_pipeline none h
  refine iterate_settles (fun t : String => t.toList.count '!') (fun t => ?_) text
  cases Catalog.two_passes sub (pass t) (pass (p.apply t)) with
  | inl lower => exact .inl lower
  | inr rest => exact .inr (String.toList_inj.mp rest)

theorem pipeline_settles_identifier_with_mark :
    ∃ p, (⟨some ["a!", "text"], ["console-log-to-warn"], []⟩ : Effective).pipeline = .ok p ∧
      p.apply (p.apply^[2 * 3 + 1] "!a!!text") = p.apply^[2 * 3 + 1] "!a!!text" := by
  obtain ⟨p, hp⟩ := exists_pipeline
    (e := ⟨some ["a!", "text"], ["console-log-to-warn"], []⟩) rfl (by decide) (by decide)
  exact ⟨p, hp, pipeline_settles rfl hp "!a!!text"⟩

end Effective

end LintRepair
