import LintRepair.Proofs.Replacement.Rewriting

/-! # Trimming what is replaced

Characters at the ends of a replaced part that are put back unchanged can be left out of it. The
rewriting is the same when this changes nothing about where parts start.
-/

namespace LintRepair.Replacement

variable {hits hits' : Hits} {ended ended' : Bool}
  {before after gap rest out skipped w v : List Char}

theorem Rewritten.prepend (h : Rewritten hits ended (before ++ w) rest out) (solid : Solid hits)
    (idle : Idle hits before w rest) : Rewritten hits ended' before (w ++ rest) (w ++ out) := by
  cases h with
  | done passed =>
    refine .done fun skipped rest' hrest starts => ?_
    cases List.append_eq_append_iff.mp hrest with
    | inl side =>
      obtain ⟨a, rfl, rfl⟩ := side
      exact absurd (by simpa using starts) ((passed a rest' rfl).not_starts solid)
    | inr side =>
      obtain ⟨a, rfl, rfl⟩ := side
      by_cases ha : a = []
      · subst ha
        exact absurd (by simpa using starts) ((passed [] rest rfl).not_starts solid)
      · exact absurd starts (idle skipped a rfl ha)
  | @hit _ _ gap old after new out found fresh passed tail =>
    have idle' : Idle hits (before ++ w) gap (old ++ after) := fun u v hgap hv =>
      (passed u v hgap hv).not_starts solid
    have all : Rewritten hits ended' before (w ++ gap ++ (old ++ after)) (w ++ gap ++ (new ++ out)) :=
      .hit (by simpa using found) (fun hold => absurd (hold ▸ found) (solid _ _ _))
        (idle.append idle').passed (by simpa using tail)
    simpa using all

/-- Each replaced part of the first kind is a part of the second kind with text around it that is put
    back. Where a part of the second kind starts, one of the first kind starts there or one character
    earlier. -/
structure Trims (hits hits' : Hits) : Prop where
  narrow : ∀ before old after new, hits before old after new → ∃ w old' v new',
    old = w ++ (old' ++ v) ∧ new = w ++ (new' ++ v) ∧ hits' (before ++ w) old' (v ++ after) new' ∧
      Idle hits' before w (old' ++ (v ++ after)) ∧ Idle hits' (before ++ w ++ old') v after
  back : ∀ before rest, Starts hits' before rest → Starts hits before rest ∨
    ∃ b c, before = b ++ [c] ∧ Starts hits b (c :: rest)
  next : ∀ before old after new, hits before old after new →
    Starts hits' (before ++ old) after → Starts hits (before ++ old) after

namespace Trims

/-- Nothing has to be left out. -/
theorem refl (hits : Hits) : Trims hits hits where
  narrow _ old _ new hit := ⟨[], old, [], new, by simp, by simp, by simpa using hit, .nil, .nil⟩
  back _ _ := .inl
  next _ _ _ _ _ := id

theorem not_starts (t : Trims hits hits')
    (start : Starts hits' before (skipped ++ rest) → Starts hits before (skipped ++ rest))
    (none : ∀ u v, skipped = u ++ v → ¬ Starts hits (before ++ u) (v ++ rest)) :
    ¬ Starts hits' (before ++ skipped) rest := by
  intro starts
  rcases List.eq_nil_or_concat skipped with rfl | ⟨u, c, rfl⟩
  · rw [List.append_nil] at starts
    exact none [] [] rfl (by simpa using start starts)
  rw [List.concat_eq_append] at starts none
  cases t.back _ _ starts with
  | inl same => exact none _ [] (List.append_nil _).symm same
  | inr h =>
    obtain ⟨b, d, hb, earlier⟩ := h
    rw [← List.append_assoc] at hb
    obtain ⟨rfl, hd⟩ := List.append_inj' hb rfl
    obtain rfl := List.singleton_inj.mp hd
    exact none u [c] rfl earlier

theorem idle (t : Trims hits hits')
    (start : Starts hits' before (gap ++ rest) → Starts hits before (gap ++ rest))
    (h : Idle hits before gap rest) : Idle hits' before gap rest := by
  intro u v hgap hv
  subst hgap
  rw [List.append_assoc] at start
  refine t.not_starts start fun x y hu => ?_
  subst hu
  have := h x (y ++ v) (by simp) (by simp [hv])
  rwa [List.append_assoc] at this

end Trims

/-- What is replaced can be trimmed. -/
theorem Rewritten.trim (h : Rewritten hits ended before rest out) (t : Trims hits hits')
    (solid : Solid hits) (solid' : Solid hits')
    (start : Starts hits' before rest → Starts hits before rest) :
    Rewritten hits' ended' before rest out := by
  induction h generalizing ended' with
  | @done _ before rest passed =>
    refine .done fun skipped rest' hrest starts => absurd starts ?_
    subst hrest
    refine t.not_starts start fun u v hu => ?_
    subst hu
    exact (passed u (v ++ rest') (by simp)).not_starts solid
  | @hit _ before gap old after new out found _ passed tail ih =>
    have idle : Idle hits before gap (old ++ after) := fun u v hgap hv =>
      (passed u v hgap hv).not_starts solid
    have idle' := t.idle start idle
    have tail' : Rewritten hits' true (before ++ gap ++ old) after out := ih (t.next _ _ _ _ found)
    obtain ⟨w, old', v, new', rfl, rfl, found', idleLeft, idleRight⟩ := t.narrow _ _ _ _ found
    -- The text that is put back after the part goes in front of what follows.
    have tail'' : Rewritten hits' true (before ++ gap ++ w ++ old') (v ++ after) (v ++ out) :=
      Rewritten.prepend (by simpa using tail') solid' idleRight
    have idleAll : Idle hits' before (gap ++ w) (old' ++ (v ++ after)) :=
      Idle.append (by simpa using idle') idleLeft
    have all : Rewritten hits' ended' before (gap ++ w ++ (old' ++ (v ++ after)))
        (gap ++ w ++ (new' ++ (v ++ out))) :=
      .hit (by simpa using found') (fun hold => absurd (hold ▸ found') (solid' _ _ _))
        idleAll.passed (by simpa using tail'')
    simpa using all

end LintRepair.Replacement
