import LintRepair.Proofs.Pattern.Matches
import LintRepair.Rule.Basic

/-! # Rewriting a text from left to right

What a rule does to a document, as a relation on texts that shows where each replaced part stood:
parts that are hit are replaced, and no part is left out where another could have been hit.
-/

namespace LintRepair.Replacement

open LintRepair.Pattern

/-- Which parts of a text are replaced, and by what: the text before the part, the part, the text
    after it, and the text put in its place. -/
abbrev Hits := List Char → List Char → List Char → List Char → Prop

/-- A part that starts here could be replaced. -/
def Starts (hits : Hits) (before rest : List Char) : Prop :=
  ∃ old after new, rest = old ++ after ∧ hits before old after new

/-- A place is passed over for good reason. Where a part could be replaced, that is the end of the
    replaced part before, and the empty part there is not replaced again. -/
def Passed (hits : Hits) (ended : Bool) (before skipped rest : List Char) : Prop :=
  Starts hits (before ++ skipped) rest →
    ended = true ∧ skipped = [] ∧ ∃ new, hits before [] rest new

/-- `Rewritten hits ended before rest out`: after `before`, which ends with a replaced part if `ended`
    says so, the text `rest` becomes `out`. -/
inductive Rewritten (hits : Hits) : Bool → List Char → List Char → List Char → Prop where
  | done {ended before rest}
      (passed : ∀ skipped rest', rest = skipped ++ rest' →
        Passed hits ended before skipped rest') :
      Rewritten hits ended before rest rest
  | hit {ended before gap old after new out}
      (found : hits (before ++ gap) old after new)
      (fresh : old = [] → ended = true → gap ≠ [])
      (passed : ∀ skipped rest', gap = skipped ++ rest' → rest' ≠ [] →
        Passed hits ended before skipped (rest' ++ (old ++ after)))
      (tail : Rewritten hits true (before ++ gap ++ old) after out) :
      Rewritten hits ended before (gap ++ (old ++ after)) (gap ++ (new ++ out))

/-- Parts that are replaced are never empty. -/
def Solid (hits : Hits) : Prop := ∀ before after new, ¬ hits before [] after new

section Idle

variable {hits : Hits} {ended : Bool} {before gap rest skipped w v : List Char}

theorem Passed.not_starts (h : Passed hits ended before skipped rest) (solid : Solid hits) :
    ¬ Starts hits (before ++ skipped) rest := by
  intro starts
  obtain ⟨-, -, new, empty⟩ := h starts
  exact solid _ _ _ empty

/-- No part that could be replaced starts in a text. -/
def Idle (hits : Hits) (before gap rest : List Char) : Prop :=
  ∀ u v, gap = u ++ v → v ≠ [] → ¬ Starts hits (before ++ u) (v ++ rest)

theorem Idle.nil : Idle hits before [] rest := by
  intro u v huv hv
  exact absurd (List.append_eq_nil_iff.mp huv.symm).2 hv

theorem Idle.append (first : Idle hits before w (v ++ rest))
    (second : Idle hits (before ++ w) v rest) : Idle hits before (w ++ v) rest := by
  intro u x hux hx
  cases List.append_eq_append_iff.mp hux with
  | inl h =>
    obtain ⟨a, rfl, rfl⟩ := h
    simpa using second a x rfl hx
  | inr h =>
    obtain ⟨a, rfl, rfl⟩ := h
    by_cases ha : a = []
    · subst ha
      simp only [List.nil_append] at hx
      simpa using second [] v rfl hx
    · simpa using first u a rfl ha

theorem Idle.passed (h : Idle hits before gap rest) (u v : List Char) (hgap : gap = u ++ v)
    (hv : v ≠ []) : Passed hits ended before u (v ++ rest) :=
  fun starts => absurd starts (h u v hgap hv)

end Idle

section Count

variable {hits : Hits} {ended : Bool} {before rest out : List Char} {c : Char}

/-- A character does not become more frequent when no replaced part gets more of it. -/
theorem Rewritten.count_le (h : Rewritten hits ended before rest out)
    (fewer : ∀ before old after new, hits before old after new → new.count c ≤ old.count c) :
    out.count c ≤ rest.count c := by
  induction h with
  | done => exact Nat.le_refl _
  | hit found _ _ _ ih =>
    have := fewer _ _ _ _ found
    simp only [List.count_append]
    omega

/-- Nothing has been replaced when each replaced part would have lost some of a character and the text
    has not. -/
theorem Rewritten.eq_of_count (h : Rewritten hits ended before rest out)
    (fewer : ∀ before old after new, hits before old after new → new.count c < old.count c)
    (kept : rest.count c ≤ out.count c) : out = rest := by
  cases h with
  | done => rfl
  | hit found _ _ tail =>
    have := fewer _ _ _ _ found
    have := tail.count_le fun _ _ _ _ hit => Nat.le_of_lt (fewer _ _ _ _ hit)
    simp only [List.count_append] at kept
    omega

end Count

theorem toList_extract_of_split {text : Array Char} {before gap rest : List Char}
    (split : text.toList = before ++ (gap ++ rest)) :
    (text.extract before.length (before ++ gap).length).toList = gap := by
  rw [Array.toList_extract, List.extract_eq_take_drop, split, List.drop_left, List.length_append,
    Nat.add_sub_cancel_left, List.take_left]

/-- What is put after the text that has been made does not depend on it. -/
theorem toList_splice (text : Array Char) (fill : Span → Array Char) (pos : Nat)
    (out : Array Char) (ms : List Span) :
    (splice text fill pos out ms).toList =
      out.toList ++ (splice text fill pos #[] ms).toList := by
  induction ms generalizing pos out with
  | nil => simp [splice]
  | cons m ms ih =>
    rw [splice, splice, ih, ih m.stop (#[] ++ _ ++ _)]
    simp

end LintRepair.Replacement

namespace LintRepair.CompiledRule

open LintRepair.Pattern LintRepair.Replacement

/-- What a rule puts in place of a match. -/
def fill (r : CompiledRule) (text : List Char) (m : Span) : List Char :=
  (expand r.regex.names text.toArray m (parts r.rule.replacement.toList)).toList

/-- The parts of a text that a rule replaces. -/
def Hit (r : CompiledRule) : Hits := fun before old after new =>
  ∃ s, r.regex.core.Reads before old after [] s ∧
    new = r.fill (before ++ (old ++ after)) ⟨before.length, (before ++ old).length, s⟩

theorem starts_iff {r : CompiledRule} {before rest : List Char} :
    Starts r.Hit before rest ↔ r.regex.core.StartsAt (before ++ rest) before.length := by
  constructor
  · intro h
    obtain ⟨old, after, new, rfl, s, reads, -⟩ := h
    exact ⟨⟨before.length, _, s⟩, ⟨before, old, after, rfl, rfl, rfl, reads⟩, rfl⟩
  · intro h
    obtain ⟨m, ⟨before', old, after, split, hstart, -, reads⟩, hm⟩ := h
    obtain ⟨rfl, rfl⟩ := List.append_inj split (hm.symm.trans hstart)
    exact ⟨old, after, _, rfl, m.slots, reads, rfl⟩

theorem hit_empty_of_emptyAt {r : CompiledRule} {before rest : List Char}
    (h : r.regex.core.EmptyAt (before ++ rest) before.length) :
    ∃ new, r.Hit before [] rest new := by
  obtain ⟨m, ⟨before', old, after, split, hstart, hstop, reads⟩, hm, hm'⟩ := h
  obtain ⟨rfl, rfl⟩ := List.append_inj split (hm.symm.trans hstart)
  obtain rfl : old = [] := by
    rw [hm', List.length_append] at hstop
    exact List.length_eq_zero_iff.mp (by omega)
  exact ⟨_, m.slots, reads, rfl⟩

/-- What the list of all matches passes over is passed over for good reason. -/
theorem passed_of_leftmost {r : CompiledRule} {text before skipped rest : List Char}
    {lastStop : Option Nat} {ended : Bool} (split : text = before ++ (skipped ++ rest))
    (hlast : lastStop = if ended then some before.length else none)
    (passed : r.regex.core.StartsAt text (before ++ skipped).length →
      lastStop = some (before ++ skipped).length ∧
        r.regex.core.EmptyAt text (before ++ skipped).length) :
    Passed r.Hit ended before skipped rest := by
  intro starts
  rw [starts_iff, List.append_assoc, ← split] at starts
  obtain ⟨hstop, empty⟩ := passed starts
  rw [hlast] at hstop
  cases ended with
  | false => cases hstop
  | true =>
    obtain rfl : skipped = [] := by
      simp only [if_true, Option.some.injEq, List.length_append] at hstop
      exact List.length_eq_zero_iff.mp (by omega)
    rw [List.append_nil, split, List.nil_append] at empty
    exact ⟨rfl, rfl, hit_empty_of_emptyAt empty⟩

/-- Matches from left to right, put together, rewrite what is left of the text. -/
theorem rewritten_of_leftmost (r : CompiledRule) {text : Array Char} {lastStop : Option Nat}
    {start : Nat} {ms : List Span}
    (h : r.regex.core.Leftmost text.toList lastStop start ms) {ended : Bool}
    {before rest : List Char} (split : text.toList = before ++ rest)
    (hstart : start = before.length)
    (hlast : lastStop = if ended then some before.length else none) :
    Rewritten r.Hit ended before rest
      (splice text (fun m => (r.fill text.toList m).toArray) start #[] ms).toList := by
  induction h generalizing ended before rest with
  | @none lastStop start passed =>
    subst hstart
    have hsize : text.size = (before ++ rest).length := by rw [← split, Array.length_toList]
    have all : (text.extract before.length text.size).toList = rest := by
      rw [hsize]
      exact toList_extract_of_split (by rw [split, List.append_nil])
    rw [splice, Array.toList_append, all, Array.toList_empty, List.nil_append]
    refine .done fun skipped rest' hrest => passed_of_leftmost (hrest ▸ split) hlast ?_
    exact passed _ (by rw [List.length_append]; omega)
  | @cons lastStop start m ms matched later fresh passed tail ih =>
    obtain ⟨before', old, after, split', hstart', hstop', reads⟩ := matched
    obtain ⟨gap, rfl⟩ : ∃ gap, before' = before ++ gap := by
      have left : before <+: text.toList := ⟨rest, split.symm⟩
      have right : before' <+: text.toList := ⟨_, split'.symm⟩
      obtain ⟨gap, hgap⟩ := List.prefix_of_prefix_length_le left right (by omega)
      exact ⟨gap, hgap.symm⟩
    obtain rfl : rest = gap ++ (old ++ after) := by
      rw [split', List.append_assoc] at split
      exact (List.append_cancel_left split).symm
    subst hstart
    have tail' : Rewritten r.Hit true (before ++ gap ++ old) after
        (splice text (fun m => (r.fill text.toList m).toArray) m.stop #[] ms).toList :=
      ih (by rw [split', List.append_assoc _ old]) hstop' (by rw [hstop']; rfl)
    rw [splice, toList_splice]
    simp only [Array.toList_append, hstart', toList_extract_of_split split]
    have made : r.fill text.toList m = r.fill (before ++ gap ++ (old ++ after))
        ⟨(before ++ gap).length, (before ++ gap ++ old).length, m.slots⟩ := by
      rw [← split', ← hstart', ← hstop']
    rw [List.nil_append, List.append_assoc]
    refine .hit ⟨m.slots, reads, made⟩ (fun hold hended hgap => ?_)
      (fun skipped rest' hgap hne => passed_of_leftmost (by rw [split, hgap, List.append_assoc])
        hlast (passed _ (by simp) ?_)) tail'
    · subst hold hgap
      rw [hended] at hlast
      simp only [List.append_nil] at hstart' hstop'
      refine fresh (hstart'.trans hstop'.symm) ?_
      rw [hlast, hstop']
      rfl
    · rw [hstart', hgap]
      have := List.length_pos_iff.mpr hne
      simp only [List.length_append]
      omega

/-- A rule rewrites a document. -/
theorem rewritten (r : CompiledRule) (d : Document) :
    Rewritten r.Hit false [] d.toList (r.apply d).toList := by
  have same : r.apply d = splice d (fun m => (r.fill d.toList m).toArray) 0 #[]
      (r.regex.spans d) := by
    rw [apply, substitute?, replaceAll?]
    split
    · rename_i heq
      simp [heq, splice]
    · simp [fill]
  rw [same]
  exact r.rewritten_of_leftmost (spans_leftmost r.regex.core d) (List.nil_append _).symm rfl rfl

end LintRepair.CompiledRule
