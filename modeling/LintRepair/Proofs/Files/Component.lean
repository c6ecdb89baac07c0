import LintRepair.Files.Ancestors
import LintRepair.Proofs.Files.Way
import Mathlib.Data.List.TakeWhile

/-! # Components of paths

A file in a directory has one component more than the directory, and a parent has one less than its
child. So the directories above a path have pairwise different components. Two spellings with the same
components name the same place if they name one.
-/

namespace LintRepair.Files

variable {cs : List Char} {segment : List Char} {segments : List (List Char)}

theorem splitSlash_append (cs ds : List Char) :
    splitSlash (cs ++ '/' :: ds) = splitSlash cs ++ splitSlash ds := by
  induction cs with
  | nil => simp [splitSlash]
  | cons c cs ih =>
    rw [List.cons_append, splitSlash, splitSlash, ih]
    split
    · rfl
    · cases hs : splitSlash cs with
      | nil => exact absurd hs (splitSlash_ne_nil cs)
      | cons segment segments => rfl

theorem splitSlash_of_not_mem (h : '/' ∉ cs) : splitSlash cs = [cs] := by
  induction cs with
  | nil => rfl
  | cons c cs ih =>
    rw [List.mem_cons, not_or] at h
    rw [splitSlash, if_neg (Ne.symm h.1), ih h.2]

theorem slash_not_mem_of_mem_splitSlash (h : segment ∈ splitSlash cs) : '/' ∉ segment := by
  induction cs generalizing segment with
  | nil =>
    obtain rfl := List.mem_singleton.mp h
    exact List.not_mem_nil
  | cons c cs ih =>
    rw [splitSlash] at h
    split at h
    · cases List.mem_cons.mp h with
      | inl empty => simp [empty]
      | inr h => exact ih h
    · rename_i hc
      cases hs : splitSlash cs with
      | nil => exact absurd hs (splitSlash_ne_nil cs)
      | cons first others =>
        rw [hs] at h ih
        cases List.mem_cons.mp h with
        | inl longer =>
          rw [longer, List.mem_cons, not_or]
          exact ⟨Ne.symm hc, ih List.mem_cons_self⟩
        | inr h => exact ih (List.mem_cons_of_mem _ h)

theorem splitSlash_joinSlash (nonempty : segments ≠ []) (h : ∀ s ∈ segments, '/' ∉ s) :
    splitSlash (joinSlash segments) = segments := by
  induction segments with
  | nil => exact absurd rfl nonempty
  | cons segment segments ih =>
    cases segments with
    | nil => exact splitSlash_of_not_mem (h segment List.mem_cons_self)
    | cons s ss =>
      have rest := ih (by simp) fun s hs => h s (List.mem_cons_of_mem _ hs)
      rw [joinSlash_cons segment (by simp), splitSlash_append, rest,
        splitSlash_of_not_mem (h segment List.mem_cons_self)]
      rfl

theorem head?_joinSlash_eq_slash_iff (h : '/' ∉ segment) :
    (joinSlash (segment :: segments)).head? = some '/' ↔ segment = [] ∧ segments ≠ [] := by
  cases segments with
  | nil =>
    simp only [joinSlash, ne_eq, not_true_eq_false, and_false, iff_false]
    exact fun head => h (List.mem_of_mem_head? head)
  | cons s ss =>
    rw [joinSlash_cons segment (by simp)]
    cases segment with
    | nil => simp
    | cons c cs =>
      rw [List.mem_cons, not_or] at h
      simpa using Ne.symm h.1

/-- The segments that stand for something. -/
def loud (segments : List (List Char)) : List (List Char) := segments.filter (!isSilent ·)

theorem loud_append (before after : List (List Char)) :
    loud (before ++ after) = loud before ++ loud after := List.filter_append ..

theorem loud_singleton (h : isSilent segment = false) : loud [segment] = [segment] :=
  List.filter_cons_of_pos (by simp [h])

theorem loud_dropWhile (segments : List (List Char)) :
    loud (segments.dropWhile isSilent) = loud segments := by
  induction segments with
  | nil => rfl
  | cons segment segments ih =>
    rw [List.dropWhile_cons]
    split
    · rename_i silent
      rw [ih, loud, loud, List.filter_cons_of_neg (by simp [silent])]
    · rfl

theorem loud_reverse (segments : List (List Char)) :
    loud segments.reverse = (loud segments).reverse := List.filter_reverse ..

namespace Component

/-- What has to be followed for a component. -/
def step? : Component → Option (List Char)
  | .root => none
  | .here => none
  | .up => some ['.', '.']
  | .name chars => some chars

theorem step?_ofSegment (segment : List Char) : step? (ofSegment segment) = some segment := by
  rw [ofSegment]
  split
  · rename_i up
    rw [up]
    rfl
  · rfl

theorem step?_comp_ofSegment : step? ∘ ofSegment = some := funext step?_ofSegment

theorem ofSegment_ne_root (segment : List Char) : ofSegment segment ≠ .root := by
  rw [ofSegment]
  split <;> simp

end Component

namespace FilePath

variable {p q : FilePath} {first : List Char} {others : List (List Char)}

theorem loud_dropSilentEnd (segments : List (List Char)) :
    loud (dropSilentEnd segments) = loud segments := by
  rw [dropSilentEnd, loud_reverse, loud_dropWhile, loud_reverse, List.reverse_reverse]

/-- Of segments that stand for nothing, none stays. -/
theorem dropSilentEnd_eq_nil_of_loud (h : loud segments = []) : dropSilentEnd segments = [] := by
  have silent : ∀ s ∈ segments.reverse, isSilent s = true := by
    intro s hs
    simpa using List.filter_eq_nil_iff.mp h s (List.mem_reverse.mp hs)
  rw [dropSilentEnd, List.dropWhile_eq_nil_iff.mpr silent, List.reverse_nil]

theorem mem_of_mem_dropSilentEnd (h : segment ∈ dropSilentEnd segments) : segment ∈ segments :=
  List.mem_reverse.mp ((List.dropWhile_sublist _).subset (List.mem_reverse.mp h))

theorem components_of_segments (h : p.segments = first :: others) : p.components =
    firstComponents p.isAbsolute first ++ (loud others).map Component.ofSegment := by
  rw [components, h]
  rfl

theorem exists_segments (p : FilePath) : ∃ first others, p.segments = first :: others := by
  cases h : p.segments with
  | nil => exact absurd h (splitSlash_ne_nil _)
  | cons first others => exact ⟨first, others, rfl⟩

theorem segments_ofList_joinSlash (nonempty : segments ≠ []) (h : ∀ s ∈ segments, '/' ∉ s) :
    (⟨String.ofList (joinSlash segments)⟩ : FilePath).segments = segments := by
  rw [FilePath.segments, String.toList_ofList, splitSlash_joinSlash nonempty h]

/-- A path is absolute when it has an empty segment in front of others. -/
theorem isAbsolute_iff (h : p.segments = first :: others) :
    p.isAbsolute = true ↔ first = [] ∧ others ≠ [] := by
  have among : first ∈ p.segments := h ▸ List.mem_cons_self
  have slash : '/' ∉ first := slash_not_mem_of_mem_splitSlash among
  have text : p.text.toList = joinSlash (first :: others) := by
    rw [← h, FilePath.segments, joinSlash_splitSlash]
  rw [isAbsolute, text, beq_iff_eq]
  exact head?_joinSlash_eq_slash_iff slash

theorem isAbsolute_congr {others' : List (List Char)} (hp : p.segments = first :: others)
    (hq : q.segments = first :: others') (h : others = [] ↔ others' = []) :
    p.isAbsolute = q.isAbsolute := by
  rw [Bool.eq_iff_iff, isAbsolute_iff hp, isAbsolute_iff hq, ne_eq, h]

/-- A path that ends in a name where another ends in nothing has one component more. -/
theorem components_of_one_more {tail : List (List Char)}
    (hp : p.segments = first :: (others ++ tail))
    (hq : q.segments = first :: (others ++ [segment])) (silent : loud tail = [])
    (audible : isSilent segment = false) (absolute : q.isAbsolute = p.isAbsolute) :
    q.components = p.components ++ [.ofSegment segment] := by
  rw [components_of_segments hp, components_of_segments hq, absolute, loud_append, loud_append,
    silent, loud_singleton audible, List.append_nil, List.map_append, List.append_assoc]
  rfl

section File

variable {name : String} (noSlash : '/' ∉ name.toList) (audible : isSilent name.toList = false)
include noSlash audible

theorem components_name : (⟨name⟩ : FilePath).components = [.ofSegment name.toList] := by
  have hsegs : (⟨name⟩ : FilePath).segments = [name.toList] := splitSlash_of_not_mem noSlash
  have relative : (⟨name⟩ : FilePath).isAbsolute = false := by
    rw [isAbsolute, beq_eq_false_iff_ne]
    exact fun head => noSlash (List.mem_of_mem_head? head)
  rw [isSilent, Bool.or_eq_false_iff, beq_eq_false_iff_ne, beq_eq_false_iff_ne] at audible
  rw [components_of_segments hsegs, relative, firstComponents, if_neg (by simp),
    if_neg audible.1, if_neg audible.2]
  rfl

theorem components_after_slash (slash : p.text.toList.getLast? = some '/') :
    (⟨p.text ++ name⟩ : FilePath).components = p.components ++ [.ofSegment name.toList] := by
  obtain ⟨front, text⟩ : ∃ front, p.text.toList = front ++ ['/'] :=
    List.getLast?_eq_some_iff.mp slash
  cases parts : splitSlash front with
  | nil => exact absurd parts (splitSlash_ne_nil front)
  | cons first others =>
    have hp : p.segments = first :: (others ++ [[]]) := by
      rw [segments, text, splitSlash_append, parts]
      rfl
    have hq : (⟨p.text ++ name⟩ : FilePath).segments = first :: (others ++ [name.toList]) := by
      rw [segments, String.toList_append, text, List.append_assoc, List.singleton_append,
        splitSlash_append, parts, splitSlash_of_not_mem noSlash]
      rfl
    exact components_of_one_more hp hq rfl audible (isAbsolute_congr hq hp (by simp))

theorem components_with_slash (nonempty : p.text.toList ≠ []) :
    (⟨p.text ++ "/" ++ name⟩ : FilePath).components =
      p.components ++ [.ofSegment name.toList] := by
  have text : (p.text ++ "/" ++ name).toList = p.text.toList ++ '/' :: name.toList := by
    simp [String.toList_append]
  obtain ⟨first, others, hp⟩ := p.exists_segments
  have hq : (⟨p.text ++ "/" ++ name⟩ : FilePath).segments =
      first :: (others ++ [name.toList]) := by
    rw [segments] at hp ⊢
    rw [text, splitSlash_append, hp, splitSlash_of_not_mem noSlash]
    rfl
  have absolute : (⟨p.text ++ "/" ++ name⟩ : FilePath).isAbsolute = p.isAbsolute := by
    rw [isAbsolute, isAbsolute, text]
    cases chars : p.text.toList with
    | nil => exact absurd chars nonempty
    | cons c cs => rfl
  exact components_of_one_more (by rw [hp, List.append_nil]) hq rfl audible absolute

/-- A file has the components of its directory and one more. -/
theorem components_file (p : FilePath) :
    (p.file name).components = p.components ++ [.ofSegment name.toList] := by
  rw [file]
  split
  · rename_i ends
    rw [Bool.or_eq_true, beq_iff_eq, String.isEmpty_iff] at ends
    rcases ends with empty | slash
    · obtain rfl : p = ⟨""⟩ := by rw [← empty]
      rw [String.empty_append]
      exact components_name noSlash audible
    · exact components_after_slash noSlash audible slash
  · rename_i inside
    rw [Bool.or_eq_true, not_or, String.isEmpty_iff] at inside
    exact components_with_slash noSlash audible (by simpa using inside.1)

end File

/-- What a parent is. A single segment leaves the empty path; otherwise the last segment goes that
    stands for something, with the silent ones before it, and the root stays a slash. -/
theorem parent?_cases (hsegs : p.segments = first :: others) (h : p.parent? = some q) :
    (p.isAbsolute = false ∧ first ≠ [] ∧ loud others = [] ∧ q = ⟨""⟩) ∨
      ∃ kept last, loud others = loud kept ++ [last] ∧ (∀ s ∈ kept, s ∈ others) ∧
        (loud kept = [] → kept = []) ∧
        ((p.isAbsolute = true ∧ kept = [] ∧ q = ⟨"/"⟩) ∨
          ((p.isAbsolute = true → kept ≠ []) ∧
            q = ⟨String.ofList (joinSlash (first :: kept))⟩)) := by
  rw [parent?, hsegs] at h
  dsimp only at h
  cases reversed : (dropSilentEnd others).reverse with
  | nil =>
    have silent : loud others = [] := by
      rw [← loud_dropSilentEnd, List.reverse_eq_nil_iff.mp reversed]
      rfl
    rw [reversed] at h
    dsimp only at h
    split at h
    · cases h
    · rename_i relative
      rw [Bool.or_eq_true, decide_eq_true_eq, not_or, Bool.not_eq_true] at relative
      exact .inl ⟨relative.1, relative.2, silent, (Option.some.inj h).symm⟩
  | cons last before =>
    have ends : dropSilentEnd others = before.reverse ++ [last] := by
      rw [← List.reverse_reverse (dropSilentEnd others), reversed, List.reverse_cons]
    have audible : isSilent last = false := not_isSilent_of_dropSilentEnd reversed
    -- Silent segments go from the end twice, before the last component and after it.
    refine .inr ⟨dropSilentEnd before.reverse, last, ?_, fun s hs => ?_, fun silent => ?_, ?_⟩
    · rw [← loud_dropSilentEnd, ends, loud_append, loud_singleton audible, loud_dropSilentEnd]
    · have among : s ∈ dropSilentEnd others := by
        rw [ends]
        exact List.mem_append_left _ (mem_of_mem_dropSilentEnd hs)
      exact mem_of_mem_dropSilentEnd among
    · rw [loud_dropSilentEnd] at silent
      exact dropSilentEnd_eq_nil_of_loud silent
    · rw [reversed] at h
      dsimp only at h
      split at h
      · rename_i top
        rw [Bool.and_eq_true, decide_eq_true_eq, List.length_cons, Nat.add_eq_right,
          List.length_eq_zero_iff] at top
        exact .inl ⟨top.1, top.2, (Option.some.inj h).symm⟩
      · rename_i deeper
        refine .inr ⟨fun absolute nothing => deeper ?_, (Option.some.inj h).symm⟩
        rw [absolute, nothing]
        rfl

/-- A path that is joined from segments of another one has these segments. -/
theorem segments_joined (hsegs : p.segments = first :: others)
    (kept : ∀ s ∈ segments, s ∈ others) :
    (⟨String.ofList (joinSlash (first :: segments))⟩ : FilePath).segments = first :: segments := by
  refine segments_ofList_joinSlash (by simp) fun s hs => ?_
  refine slash_not_mem_of_mem_splitSlash (?_ : s ∈ p.segments)
  rw [hsegs]
  exact List.mem_cons.mpr ((List.mem_cons.mp hs).imp_right (kept s))

/-- A parent has the components of its child but the last, which is not the root. -/
theorem exists_components_of_parent? (h : p.parent? = some q) :
    ∃ c, c ≠ .root ∧ p.components = q.components ++ [c] := by
  obtain ⟨first, others, hsegs⟩ := p.exists_segments
  rw [components_of_segments hsegs]
  obtain ⟨relative, named, silent, rfl⟩ | ⟨kept, last, rest, among, -, spelled⟩ :=
    parent?_cases hsegs h
  · rw [relative, silent, firstComponents, if_neg (by simp), if_neg named]
    split
    · exact ⟨.here, by simp, rfl⟩
    · exact ⟨.ofSegment first, Component.ofSegment_ne_root first, rfl⟩
  · refine ⟨.ofSegment last, Component.ofSegment_ne_root last, ?_⟩
    rw [rest, List.map_append, ← List.append_assoc]
    congr 1
    obtain ⟨absolute, rfl, rfl⟩ | ⟨deeper, rfl⟩ := spelled
    · rw [absolute]
      rfl
    · have parts := segments_joined hsegs among
      have more : others ≠ [] := by
        rintro rfl
        simp [loud] at rest
      rw [components_of_segments parts]
      congr 2
      rw [Bool.eq_iff_iff, isAbsolute_iff parts]
      constructor
      · exact fun absolute => ⟨((isAbsolute_iff hsegs).mp absolute).1, deeper absolute⟩
      · exact fun absolute => (isAbsolute_iff hsegs).mpr ⟨absolute.1, more⟩

/-- Only the root and the empty path have no parent. -/
theorem components_of_parent?_eq_none (h : p.parent? = none) :
    p.components = if p.isAbsolute then [.root] else [] := by
  obtain ⟨first, others, hsegs⟩ := p.exists_segments
  rw [parent?, hsegs] at h
  dsimp only at h
  cases reversed : (dropSilentEnd others).reverse with
  | nil =>
    have silent : loud others = [] := by
      rw [← loud_dropSilentEnd, List.reverse_eq_nil_iff.mp reversed]
      rfl
    rw [components_of_segments hsegs, silent, List.map_nil, List.append_nil, firstComponents]
    cases absolute : p.isAbsolute with
    | true => rfl
    | false =>
      have empty : first = [] := by simpa [reversed, absolute] using h
      simp [empty]
  | cons last before =>
    rw [reversed] at h
    dsimp only at h
    split at h <;> cases h

theorem length_components_lt_of_parent? (h : p.parent? = some q) :
    q.components.length < p.components.length := by
  obtain ⟨c, -, components⟩ := exists_components_of_parent? h
  rw [components, List.length_append, List.length_singleton]
  exact Nat.lt_succ_self _

theorem length_components_le_of_mem_ancestors (h : q ∈ p.ancestors) :
    q.components.length ≤ p.components.length := by
  induction p using ancestors.induct with
  | case1 p none =>
    rw [ancestors_of_none none, List.mem_singleton] at h
    exact h ▸ Nat.le_refl _
  | case2 p parent some ih =>
    rw [ancestors_of_some some, List.mem_cons] at h
    rcases h with rfl | h
    · exact Nat.le_refl _
    · exact Nat.le_of_lt (Nat.lt_of_le_of_lt (ih h) (length_components_lt_of_parent? some))

/-- The further up, the fewer components. -/
theorem ancestors_decreasing (p : FilePath) :
    p.ancestors.Pairwise fun near far => far.components.length < near.components.length := by
  induction p using ancestors.induct with
  | case1 p none =>
    rw [ancestors_of_none none]
    exact List.pairwise_singleton ..
  | case2 p parent some ih =>
    rw [ancestors_of_some some]
    exact .cons (fun far hfar => Nat.lt_of_le_of_lt (length_components_le_of_mem_ancestors hfar)
      (length_components_lt_of_parent? some)) ih

/-- The root stands in front of absolute paths only. -/
theorem root_mem_components_iff : Component.root ∈ p.components ↔ p.isAbsolute = true := by
  obtain ⟨first, others, hsegs⟩ := p.exists_segments
  rw [components_of_segments hsegs, List.mem_append, List.mem_map, firstComponents]
  cases p.isAbsolute with
  | true => simp
  | false =>
    have first_ne := Component.ofSegment_ne_root first
    simp only [Bool.false_eq_true, if_false, iff_false, not_or]
    refine ⟨?_, fun ⟨s, _, isRoot⟩ => Component.ofSegment_ne_root s isRoot⟩
    split
    · simp
    · split <;> simp [Ne.symm first_ne]

/-- The empty path has a single spelling. -/
theorem eq_empty_of_components (h : p.components = []) : p = ⟨""⟩ := by
  obtain ⟨first, others, hsegs⟩ := p.exists_segments
  have relative : ¬p.isAbsolute = true := by simp [← root_mem_components_iff, h]
  rw [components_of_segments hsegs, List.append_eq_nil_iff, firstComponents, if_neg relative] at h
  have unnamed : first = [] := by
    refine Decidable.byContradiction fun named => ?_
    rw [if_neg named] at h
    split at h <;> simp at h
  have alone : others = [] :=
    Decidable.byContradiction fun more => relative ((isAbsolute_iff hsegs).mpr ⟨unnamed, more⟩)
  have chars : p.text.toList = [] := by
    rw [← joinSlash_splitSlash p.text.toList, ← segments, hsegs, unnamed, alone]
    rfl
  exact congrArg FilePath.mk (String.toList_eq_nil_iff.mp chars)

/-- A parent that is the root is spelled as a slash. -/
theorem eq_slash_of_parent? (h : p.parent? = some q) (top : q.components = [.root]) :
    q = ⟨"/"⟩ := by
  have absolute : q.isAbsolute = true := root_mem_components_iff.mp (by simp [top])
  obtain ⟨first, others, hsegs⟩ := p.exists_segments
  obtain ⟨-, -, -, rfl⟩ | ⟨kept, last, -, among, bare, ⟨-, -, rfl⟩ | ⟨-, rfl⟩⟩ :=
    parent?_cases hsegs h
  · cases absolute
  · rfl
  · have parts := segments_joined hsegs among
    have more := ((isAbsolute_iff parts).mp absolute).2
    rw [components_of_segments parts, absolute, firstComponents, if_pos rfl] at top
    have silent : loud kept = [] := by simpa using top
    exact absurd (bare silent) more

theorem step?_firstComponents (hsegs : p.segments = first :: others) :
    (firstComponents p.isAbsolute first).filterMap Component.step? = loud [first] := by
  rw [firstComponents]
  split
  · rename_i absolute
    rw [((isAbsolute_iff hsegs).mp absolute).1]
    rfl
  · split
    · rename_i empty
      rw [empty]
      rfl
    · split
      · rename_i dot
        rw [dot]
        rfl
      · rename_i named unspoken
        rw [List.filterMap_cons_some (Component.step?_ofSegment first),
          loud_singleton (by simp [isSilent, named, unspoken])]
        rfl

/-- The components tell the segments that stand for something. -/
theorem loud_segments (p : FilePath) : loud p.segments = p.components.filterMap Component.step? := by
  obtain ⟨first, others, hsegs⟩ := p.exists_segments
  rw [components_of_segments hsegs, List.filterMap_append, step?_firstComponents hsegs,
    List.filterMap_map, Component.step?_comp_ofSegment, List.filterMap_some, hsegs, ← loud_append,
    List.singleton_append]

theorem origin_eq_of_same {cwd : Location} (same : p.same q = true) :
    FileTree.origin cwd p = FileTree.origin cwd q := by
  have absolute : p.isAbsolute = q.isAbsolute := by
    rw [Bool.eq_iff_iff, ← root_mem_components_iff, ← root_mem_components_iff, eq_of_beq same]
  rw [FileTree.origin, FileTree.origin, absolute]

end FilePath

namespace FileTree

variable {t : FileTree} {cwd place found other : Location} {p q : FilePath}

/-- Where segments lead, those of them lead that stand for something. -/
theorem walk_loud (h : t.walk place segments = .ok found) :
    t.walk place (loud segments) = .ok found := by
  induction segments generalizing place with
  | nil => exact h
  | cons segment segments ih =>
    obtain ⟨directory, free, rest⟩ := walk_cons_eq_ok_iff.mp h
    cases silent : isSilent segment with
    | true =>
      rw [onward, if_pos silent] at rest
      rw [loud, List.filter_cons_of_neg (by simp [silent])]
      exact ih rest
    | false =>
      rw [loud, List.filter_cons_of_pos (by simp [silent])]
      exact walk_cons_eq_ok_iff.mpr ⟨directory, free, ih rest⟩

/-- Spellings with the same components name the same place if they name any. -/
theorem resolve_eq_of_same (same : p.same q = true) (hp : t.resolve cwd p = .ok found)
    (hq : t.resolve cwd q = .ok other) : found = other := by
  have walked {path : FilePath} {place : Location} (h : t.resolve cwd path = .ok place) :
      t.walk (origin cwd path) (path.components.filterMap Component.step?) = .ok place := by
    rw [← path.loud_segments]
    exact walk_loud (walk_of_resolve h)
  have components : p.components = q.components := eq_of_beq same
  have start : origin cwd p = origin cwd q := FilePath.origin_eq_of_same same
  have hp := walked hp
  rw [components, start, walked hq] at hp
  exact (Except.ok.inj hp).symm

end FileTree

end LintRepair.Files
