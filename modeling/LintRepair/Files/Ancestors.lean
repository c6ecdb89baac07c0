import LintRepair.Files.FilePath

/-! # The directories above a path

A path and its parents, up to the root or the empty path. Each parent is shorter than the path that it
is the parent of, so there are finitely many.
-/

namespace LintRepair.Files

/-- Segments in front take room for themselves and a slash. -/
theorem length_joinSlash_append {before after : List (List Char)} (hb : before ≠ [])
    (ha : after ≠ []) :
    (joinSlash (before ++ after)).length =
      (joinSlash before).length + 1 + (joinSlash after).length := by
  induction before with
  | nil => exact absurd rfl hb
  | cons segment segments ih =>
    cases segments with
    | nil =>
      rw [List.singleton_append, joinSlash_cons segment ha]
      simp only [joinSlash, List.length_append, List.length_cons]
      omega
    | cons s ss =>
      rw [List.cons_append, joinSlash_cons segment (by simp), joinSlash_cons segment (by simp)]
      simp only [List.length_append, List.length_cons, ih (by simp)]
      omega

theorem length_le_length_joinSlash_cons (segment : List Char) (segments : List (List Char)) :
    segment.length ≤ (joinSlash (segment :: segments)).length := by
  cases segments with
  | nil => simp [joinSlash]
  | cons s ss => simp [joinSlash_cons]

theorem length_le_length_joinSlash {segments : List (List Char)} {segment : List Char}
    (h : segment ∈ segments) : segment.length ≤ (joinSlash segments).length := by
  obtain ⟨before, after, rfl⟩ := List.append_of_mem h
  have hle := length_le_length_joinSlash_cons segment after
  by_cases hb : before = []
  · simpa [hb] using hle
  · rw [length_joinSlash_append hb (by simp)]
    omega

namespace FilePath

theorem length_joinSlash_segments (p : FilePath) :
    (joinSlash p.segments).length = p.text.length := by
  rw [segments, joinSlash_splitSlash, String.length_toList]

theorem dropSilentEnd_prefix (segs : List (List Char)) :
    ∃ tail, segs = dropSilentEnd segs ++ tail := by
  refine ⟨(segs.reverse.takeWhile isSilent).reverse, ?_⟩
  rw [dropSilentEnd, ← List.reverse_append, List.takeWhile_append_dropWhile, List.reverse_reverse]

theorem not_isSilent_of_dropSilentEnd {segs before : List (List Char)} {last : List Char}
    (h : (dropSilentEnd segs).reverse = last :: before) : isSilent last = false := by
  rw [dropSilentEnd, List.reverse_reverse] at h
  have := List.head?_dropWhile_not isSilent segs.reverse
  rw [h] at this
  simpa using this

/-- A parent is shorter than the path. -/
theorem length_lt_of_parent? {p q : FilePath} (h : p.parent? = some q) :
    q.text.length < p.text.length := by
  rw [← p.length_joinSlash_segments]
  unfold parent? at h
  split at h
  · simp at h
  · rename_i first others hseg
    rw [hseg]
    split at h
    · split at h
      · simp at h
      · rename_i hne
        simp only [Bool.or_eq_true, decide_eq_true_eq, not_or] at hne
        obtain rfl : (⟨""⟩ : FilePath) = q := by simpa using h
        have : 0 < first.length := List.length_pos_iff.2 hne.2
        exact Nat.lt_of_lt_of_le this (length_le_length_joinSlash_cons first others)
    · rename_i last before hrev
      obtain ⟨tail, htail⟩ := dropSilentEnd_prefix others
      obtain ⟨skipped, hskip⟩ := dropSilentEnd_prefix before.reverse
      have hothers : others = dropSilentEnd before.reverse ++ (skipped ++ last :: tail) := by
        rw [← List.append_assoc, ← hskip, htail]
        conv => lhs; rw [← List.reverse_reverse (dropSilentEnd others), hrev]
        simp
      have hlong : (joinSlash (first :: others)).length =
          (joinSlash (first :: dropSilentEnd before.reverse)).length + 1 +
            (joinSlash (skipped ++ last :: tail)).length := by
        rw [← length_joinSlash_append (by simp) (by simp), hothers]
        rfl
      dsimp only at h
      split at h
      · obtain rfl : (⟨"/"⟩ : FilePath) = q := by simpa using h
        have hlast := not_isSilent_of_dropSilentEnd hrev
        have hne : last ≠ [] := by rintro rfl; simp [isSilent] at hlast
        have hpos := List.length_pos_iff.2 hne
        have hle := @length_le_length_joinSlash (skipped ++ last :: tail) last (by simp)
        have : ("/" : String).length = 1 := by decide
        rw [hlong]
        show "/".length < _
        omega
      · obtain rfl : (⟨String.ofList (joinSlash (first :: dropSilentEnd before.reverse))⟩ :
            FilePath) = q := by simpa using h
        rw [hlong, String.length_ofList]
        omega

/-- A path and its parents, the nearest first. -/
def ancestors (p : FilePath) : List FilePath :=
  match _h : p.parent? with
  | none => [p]
  | some q => p :: ancestors q
termination_by p.text.length
decreasing_by exact length_lt_of_parent? _h

theorem ancestors_of_none {p : FilePath} (h : p.parent? = none) : p.ancestors = [p] := by
  rw [ancestors]
  split <;> simp_all

theorem ancestors_of_some {p q : FilePath} (h : p.parent? = some q) :
    p.ancestors = p :: q.ancestors := by
  rw [ancestors]
  split <;> simp_all

end FilePath

end LintRepair.Files
