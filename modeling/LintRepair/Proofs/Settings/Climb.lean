import LintRepair.Proofs.Settings.Counting

/-! # How the search for settings files goes up

The search takes turns. Each one looks into a directory and leaves it for its parent, until a settings
file says that it is the root or there is no parent. A parent has one component less, so the turns come
to an end and no directory comes twice. Directories are told apart by their components here: a dot and
the empty path are two, though both are the current directory.
-/

namespace LintRepair.Files.FilePath

variable {p q : FilePath} {i : Nat}

/-- Each parent leaves one component out, and the root is none of them. -/
theorem exists_components_of_parentAt (h : p.parentAt i = some q) :
    ∃ passed, passed.length = i ∧ .root ∉ passed ∧ p.components = q.components ++ passed := by
  induction i generalizing q with
  | zero =>
    obtain rfl : p = q := Option.some.inj h
    exact ⟨[], rfl, List.not_mem_nil, (List.append_nil _).symm⟩
  | succ i ih =>
    obtain ⟨child, below, parent⟩ := Option.bind_eq_some_iff.mp h
    obtain ⟨passed, length, rootless, components⟩ := ih below
    obtain ⟨c, notRoot, last⟩ := exists_components_of_parent? parent
    refine ⟨c :: passed, by rw [List.length_cons, length], ?_, ?_⟩
    · rw [List.mem_cons, not_or]
      exact ⟨Ne.symm notRoot, rootless⟩
    · rw [components, last, List.append_assoc, List.singleton_append]

theorem isAbsolute_of_parentAt (h : p.parentAt i = some q) : q.isAbsolute = p.isAbsolute := by
  obtain ⟨passed, -, rootless, components⟩ := exists_components_of_parentAt h
  rw [Bool.eq_iff_iff, ← root_mem_components_iff, ← root_mem_components_iff, components,
    List.mem_append, or_iff_left rootless]

/-- Where the parents of a path end: at the root, or at the empty path if the path is relative. -/
structure EndsAt (p top : FilePath) : Prop where
  relative : p.isAbsolute = false → top = ⟨""⟩
  absolute : p.isAbsolute = true → top.same ⟨"/"⟩ = true
  /-- The root is spelled as a slash, unless the path itself is the root in another spelling. -/
  spelled : p.isAbsolute = true → top = ⟨"/"⟩ ∨ top = p

theorem endsAt_of_parentAt (h : p.parentAt i = some q) (last : q.parent? = none) : p.EndsAt q := by
  have components := components_of_parent?_eq_none last
  rw [isAbsolute_of_parentAt h] at components
  refine ⟨fun relative => ?_, fun absolute => ?_, fun absolute => ?_⟩
  · rw [relative, if_neg Bool.false_ne_true] at components
    exact eq_empty_of_components components
  · rw [absolute, if_pos rfl] at components
    rw [same, components]
    rfl
  · rw [absolute, if_pos rfl] at components
    cases i with
    | zero => exact .inr (Option.some.inj h).symm
    | succ i =>
      obtain ⟨child, -, parent⟩ := Option.bind_eq_some_iff.mp h
      exact .inl (eq_slash_of_parent? parent components)

example : (⟨"./a//b/."⟩ : FilePath).parentAt 3 = some ⟨""⟩ := by decide

end LintRepair.Files.FilePath

namespace LintRepair

open LintRepair.Files

/-- A search on its way up: what has been found, and the directory that comes next if there is one. -/
structure Climb where
  found : Cascade
  next : Option FilePath

namespace Workspace

variable {w : Workspace} {start dir : FilePath} {c : Climb} {i r : Nat}

/-- One turn of a search. The settings file of a directory is tried, and the search goes on in the
    parent unless the file says that it is the root. -/
def turn (w : Workspace) (c : Climb) : Climb :=
  match c.next with
  | none => c
  | some dir =>
    let path := dir.file settingsFile
    match w.settings? path with
    | none => ⟨c.found, dir.parent?⟩
    | some (.error f) => ⟨{ c.found with faults := c.found.faults ++ [f] }, dir.parent?⟩
    | some (.ok s) =>
      ⟨{ c.found with loaded := c.found.loaded ++ [⟨path, s⟩] },
        if s.root then none else dir.parent?⟩

/-- The search from a directory after so many turns. -/
def climb (w : Workspace) (start : FilePath) : Nat → Climb
  | 0 => ⟨.empty, some start⟩
  | i + 1 => w.turn (w.climb start i)

theorem turn_of_none (h : c.next = none) : w.turn c = c := by
  rw [turn, h]

theorem next_turn (h : c.next = some dir) :
    (w.turn c).next = if w.isRoot dir then none else dir.parent? := by
  rw [turn, h, isRoot]
  dsimp only
  cases w.settings? (dir.file settingsFile) with
  | none => rfl
  | some result => cases result <;> rfl

theorem found_turn (h : c.next = some dir) : (w.turn c).found =
    ⟨c.found.loaded ++ (w.usableAt? (dir.file settingsFile)).toList,
      c.found.faults ++ (w.faultAt? (dir.file settingsFile)).toList⟩ := by
  rw [turn, h, usableAt?, faultAt?]
  dsimp only
  cases w.settings? (dir.file settingsFile) with
  | none => simp
  | some result => cases result <;> simp

theorem StopsAt.parent?_eq_none (stops : w.StopsAt start r) (reached : start.parentAt r = some dir)
    (plain : w.isRoot dir = false) : dir.parent? = none := by
  rcases stops.stop with ⟨top, atTop, root⟩ | none
  · rw [reached] at atTop
    cases atTop
    rw [root] at plain
    cases plain
  · rwa [FilePath.parentAt, reached, Option.bind_some] at none

/-- Up to the index at which the search stops, it goes on in the parent. -/
theorem StopsAt.goes_on (stops : w.StopsAt start r) (within : i ≤ r)
    (here : start.parentAt i = some dir) : (if w.isRoot dir then none else dir.parent?) =
      if i + 1 ≤ r then start.parentAt (i + 1) else none := by
  by_cases more : i + 1 ≤ r
  · rw [stops.earlier i more dir here, if_neg Bool.false_ne_true, if_pos more, FilePath.parentAt,
      here, Option.bind_some]
  · obtain rfl : i = r := by omega
    rw [if_neg more]
    cases root : w.isRoot dir with
    | true => rfl
    | false => exact stops.parent?_eq_none here root

/-- The search looks into the parents one after the other, up to the index at which it stops. -/
theorem StopsAt.next_climb (stops : w.StopsAt start r) (i : Nat) :
    (w.climb start i).next = if i ≤ r then start.parentAt i else none := by
  induction i with
  | zero => rfl
  | succ i ih =>
    rw [climb]
    cases next : (w.climb start i).next with
    | none =>
      -- The search is over, because it has passed the index or because there was no parent.
      rw [turn_of_none next, next]
      rw [next] at ih
      split at ih
      · rw [FilePath.parentAt, ← ih, Option.bind_none, ite_self]
      · rw [if_neg (by omega)]
    | some dir =>
      rw [next] at ih
      split at ih
      · rename_i within
        rw [next_turn next, stops.goes_on within ih.symm]
      · cases ih

theorem StopsAt.next_eq_none_iff (stops : w.StopsAt start r) :
    (w.climb start i).next = none ↔ r < i := by
  rw [stops.next_climb, ite_eq_right_iff, ← Nat.not_le]
  refine ⟨fun none within => ?_, fun beyond within => absurd within beyond⟩
  obtain ⟨dir, reached⟩ := stops.reached
  rw [FilePath.parentAt_eq_none_of_le within (none within)] at reached
  cases reached

theorem StopsAt.exists_next (stops : w.StopsAt start r) :
    ∃ dir, (w.climb start r).next = some dir := by
  rw [stops.next_climb, if_pos (Nat.le_refl r)]
  exact stops.reached

theorem parentAt_of_next (next : (w.climb start i).next = some dir) :
    start.parentAt i = some dir := by
  obtain ⟨r, stops, -⟩ := w.exists_stopsAt start
  rw [stops.next_climb] at next
  split at next
  · exact next
  · cases next

theorem exists_components_of_next (next : (w.climb start i).next = some dir) :
    ∃ passed, passed.length = i ∧ start.components = dir.components ++ passed := by
  obtain ⟨passed, length, -, components⟩ :=
    FilePath.exists_components_of_parentAt (parentAt_of_next next)
  exact ⟨passed, length, components⟩

/-- Directories with the same components come at the same turn. -/
theorem eq_of_next_same {j : Nat} {other : FilePath} (here : (w.climb start i).next = some dir)
    (there : (w.climb start j).next = some other) (same : dir.same other = true) : i = j := by
  obtain ⟨passed, rfl, components⟩ := exists_components_of_next here
  obtain ⟨passed', rfl, components'⟩ := exists_components_of_next there
  rw [components, eq_of_beq same, List.append_cancel_left_eq] at components'
  rw [components']

/-- The directories that a search still has to look into when one comes next. -/
def ahead (w : Workspace) : Option FilePath → List FilePath
  | none => []
  | some dir => w.visited dir.ancestors

theorem visited_ancestors (w : Workspace) (dir : FilePath) : w.visited dir.ancestors =
    dir :: w.ahead (if w.isRoot dir then none else dir.parent?) := by
  obtain ⟨dirs, split⟩ := dir.exists_ancestors
  cases root : w.isRoot dir with
  | true => rw [split, visited_of_root root, if_pos rfl, ahead]
  | false =>
    rw [if_neg Bool.false_ne_true]
    cases parent : dir.parent? with
    | none => rw [FilePath.ancestors_of_none parent, visited_of_not_root root]; rfl
    | some q => rw [FilePath.ancestors_of_some parent, visited_of_not_root root, ahead]

/-- What a search comes to: what it has found and what the directories hold that are ahead. -/
def outcome (w : Workspace) (c : Climb) : Cascade :=
  ⟨c.found.loaded ++ (w.ahead c.next).filterMap fun dir => w.usableAt? (dir.file settingsFile),
    c.found.faults ++ (w.ahead c.next).filterMap fun dir => w.faultAt? (dir.file settingsFile)⟩

/-- A turn moves what a directory holds from what is ahead to what has been found. -/
theorem outcome_turn (w : Workspace) (c : Climb) : w.outcome (w.turn c) = w.outcome c := by
  cases next : c.next with
  | none => rw [turn_of_none next]
  | some dir =>
    rw [outcome, outcome, next_turn next, found_turn next, next, ahead, visited_ancestors]
    simp only [List.filterMap_cons, List.append_assoc]
    cases w.usableAt? (dir.file settingsFile) <;> cases w.faultAt? (dir.file settingsFile) <;> rfl

theorem outcome_climb (w : Workspace) (start : FilePath) (i : Nat) :
    w.outcome (w.climb start i) = w.search start.ancestors := by
  induction i with
  | zero =>
    rw [search_eq]
    rfl
  | succ i ih => rw [climb, outcome_turn, ih]

/-- A search that has no directory ahead has found what it comes to. -/
theorem found_of_next_eq_none (h : (w.climb start i).next = none) :
    (w.climb start i).found = w.search start.ancestors := by
  rw [← w.outcome_climb start i, outcome, h, ahead, List.filterMap_nil, List.filterMap_nil,
    List.append_nil, List.append_nil]

theorem homeLoaded_cases (w : Workspace) (found : List LoadedSettings) : w.homeLoaded found = [] ∨
    ∃ l, w.homeLoaded found = [l] ∧ ∀ near ∈ found, near.path.same l.path = false := by
  rw [homeLoaded]
  cases w.homeFile? with
  | none => exact .inl rfl
  | some path =>
    dsimp only
    split
    · exact .inl rfl
    · rename_i new
      cases usable : w.usableAt? path with
      | none => exact .inl rfl
      | some l =>
        rw [List.any_eq_true] at new
        refine .inr ⟨l, rfl, fun near known => Bool.eq_false_iff.mpr fun same => ?_⟩
        rw [path_of_usableAt? usable] at same
        exact new ⟨near, known, same⟩

theorem pairwise_walked (w : Workspace) (start : FilePath) :
    (w.walked start).Pairwise fun near far => near.same far = false :=
  (List.pairwise_map.mp (w.nodup_walked start)).imp beq_eq_false_iff_ne.mpr

/-- No two settings files that are loaded have the same path. -/
theorem pairwise_loaded (w : Workspace) (start : FilePath) :
    (w.cascade start).loaded.Pairwise fun near far => near.path.same far.path = false := by
  have walked : ((w.walked start).filterMap w.usableAt?).Pairwise
      fun near far => near.path.same far.path = false := by
    have paths := (w.pairwise_walked start).filter w.isUsable
    rwa [← map_path_usable, List.pairwise_map] at paths
  rw [cascade_eq_walked]
  rcases w.homeLoaded_cases ((w.walked start).filterMap w.usableAt?) with none | ⟨l, one, apart⟩
  · rwa [none, List.append_nil]
  · rw [one, List.pairwise_append]
    refine ⟨walked, List.pairwise_singleton .., fun near known far home => ?_⟩
    rw [List.mem_singleton.mp home]
    exact apart near known

/-- How the search from a directory goes, which leaves a directory for its parent so many times. -/
structure Climbs (w : Workspace) (start : FilePath) (r : Nat) : Prop where
  /-- There is a directory to look into after so many turns, and none afterwards. -/
  ends : ∀ i, (w.climb start i).next = none ↔ r < i
  bounded : r ≤ start.components.length
  /-- What has been found then is what the cascade takes from these directories. -/
  found : w.cascade start = w.withHome (w.climb start (r + 1)).found
  /-- Each turn leaves out one component more, at the end. -/
  up : ∀ i dir, (w.climb start i).next = some dir →
    ∃ passed, passed.length = i ∧ start.components = dir.components ++ passed
  /-- No directory comes twice. -/
  once : ∀ i j dir other, (w.climb start i).next = some dir → (w.climb start j).next = some other →
    dir.same other = true → i = j
  /-- Unless a root ends the search, the parents do. -/
  last : ∃ dir, (w.climb start r).next = some dir ∧ (w.isRoot dir = false → start.EndsAt dir)
  /-- No two settings files that are loaded have the same path. -/
  apart : (w.cascade start).loaded.Pairwise fun near far => near.path.same far.path = false

/-- The search ends after finitely many turns, and no directory and no settings file comes twice. -/
theorem search_climbs (w : Workspace) (start : FilePath) : ∃ r, w.Climbs start r := by
  obtain ⟨r, stops, -⟩ := w.exists_stopsAt start
  obtain ⟨dir, next⟩ := stops.exists_next
  have reached := parentAt_of_next next
  obtain ⟨passed, length, components⟩ := exists_components_of_next next
  exact ⟨r, {
    ends := fun i => stops.next_eq_none_iff
    bounded := by
      rw [components, List.length_append, length]
      exact Nat.le_add_left ..
    found := by
      rw [found_of_next_eq_none (stops.next_eq_none_iff.mpr (Nat.lt_succ_self r)), cascade]
    up := fun i dir => exists_components_of_next
    once := fun i j dir other => eq_of_next_same
    last := ⟨dir, next, fun plain =>
      FilePath.endsAt_of_parentAt reached (stops.parent?_eq_none reached plain)⟩
    apart := w.pairwise_loaded start }⟩

end Workspace

end LintRepair
