import LintRepair.Proofs.Files.Way

/-! # Removing files

A tree without some of its files holds what it held, but for these files and whatever would stand under
them. A path leads to the same place as before unless it led to a removed file; then it leads nowhere.
-/

namespace LintRepair.Files

/-- Whether a place is one of some places or lies under one of them. -/
def isUnder (places : List Location) (place : Location) : Bool := places.any (·.isPrefixOf place)

section Under

variable {places : List Location} {place other : Location} {segment : List Char}

theorem isUnder_iff : isUnder places place = true ↔ ∃ p ∈ places, p <+: place := by
  simp [isUnder]

theorem isUnder_eq_false_iff : isUnder places place = false ↔ ∀ p ∈ places, ¬ p <+: place := by
  simp [isUnder]

theorem isUnder_mono (h : isUnder places place = true) (hp : place <+: other) :
    isUnder places other = true := by
  obtain ⟨p, hmem, below⟩ := isUnder_iff.mp h
  exact isUnder_iff.mpr ⟨p, hmem, below.trans hp⟩

theorem isUnder_of_mem (h : place ∈ places) : isUnder places place = true :=
  isUnder_iff.mpr ⟨place, h, List.prefix_refl place⟩

/-- From above, a segment can lead under places only by leading to one of them, and by its name. -/
theorem isUnder_onward (above : isUnder places place = false)
    (h : isUnder places (FileTree.onward place segment) = true) :
    FileTree.onward place segment ∈ places ∧ (isSilent segment || segment = ['.', '.']) = false := by
  have not_above (up : FileTree.onward place segment <+: place) : False := by
    rw [isUnder_mono h up] at above
    cases above
  by_cases silent : isSilent segment = true
  · exact (not_above (by simp [FileTree.onward, silent])).elim
  · by_cases up : segment = ['.', '.']
    · exact (not_above (by simp [FileTree.onward, up, isSilent, List.dropLast_prefix])).elim
    · have next : FileTree.onward place segment = place ++ [segment] := by
        simp [FileTree.onward, silent, up]
      obtain ⟨p, hmem, below⟩ := isUnder_iff.mp h
      rw [next] at below ⊢
      cases List.prefix_concat_iff.mp below with
      | inl same => exact ⟨same ▸ hmem, by simp [silent, up]⟩
      | inr before => exact absurd before (isUnder_eq_false_iff.mp above p hmem)

/-- On the way down from a place to places under it, some directory is the last one above them all. -/
theorem exists_last_above (nonempty : ∀ p ∈ places, p ≠ []) (above : isUnder places place = false)
    {p : Location} (hp : p ∈ places) (down : place <+: p) :
    ∃ q ∈ places, place <+: q.dropLast ∧ isUnder places q.dropLast = false := by
  induction hn : p.length using Nat.strongRecOn generalizing p with
  | ind n ih =>
    cases under : isUnder places p.dropLast with
    | true =>
      obtain ⟨q, hq, below⟩ := isUnder_iff.mp under
      have shorter : q.length < n := by
        have := below.length_le
        have := List.length_pos_iff.mpr (nonempty p hp)
        rw [List.length_dropLast] at *
        omega
      refine ih q.length shorter hq ?_ rfl
      cases List.prefix_or_prefix_of_prefix down (below.trans (List.dropLast_prefix p)) with
      | inl h => exact h
      | inr h => exact absurd h (isUnder_eq_false_iff.mp above q hq)
    | false =>
      refine ⟨p, hp, ?_, under⟩
      rw [← List.dropLast_concat_getLast (nonempty p hp)] at down
      cases List.prefix_concat_iff.mp down with
      | inl same =>
        rw [List.dropLast_concat_getLast (nonempty p hp)] at same
        exact absurd (same ▸ List.prefix_refl p) (isUnder_eq_false_iff.mp above p hp)
      | inr h => exact h

end Under

theorem lookup_filter_of_key {entries : List (Location × Node)} {place : Location}
    (keep : Location → Bool) (h : keep place = true) :
    (entries.filter fun e => keep e.1).lookup place = entries.lookup place := by
  induction entries with
  | nil => rfl
  | cons e es ih =>
    obtain ⟨key, node⟩ := e
    by_cases same : place = key
    · subst same
      rw [List.filter_cons, if_pos h, List.lookup_cons_self, List.lookup_cons_self]
    · rw [List.lookup_cons, beq_false_of_ne same, List.filter_cons]
      split
      · rw [List.lookup_cons, beq_false_of_ne same]
        exact ih
      · exact ih

theorem mem_of_lookup {entries : List (Location × Node)} {place : Location} {node : Node}
    (h : entries.lookup place = some node) : (place, node) ∈ entries := by
  induction entries with
  | nil => cases h
  | cons e es ih =>
    obtain ⟨key, first⟩ := e
    rw [List.lookup_cons] at h
    split at h
    · rename_i same
      cases h
      rw [eq_of_beq same]
      exact List.mem_cons_self
    · exact List.mem_cons_of_mem _ (ih h)

namespace FileTree

variable {t : FileTree} {places : List Location} {place found : Location}
  {segments : List (List Char)} {cwd : Location} {path : FilePath}

/-- The tree without some files. The directories in which they were stay. -/
def without (t : FileTree) (places : List Location) : FileTree :=
  ⟨(t.entries ++ places.map fun place => (place.dropLast, Node.directory)).filter
    fun e => !isUnder places e.1⟩

/-- Whether there are regular files at places. -/
def HasFiles (t : FileTree) (places : List Location) : Prop :=
  ∀ p ∈ places, p ≠ [] ∧ ∃ bytes access, t.node? p = some (.file bytes access)

theorem HasFiles.listed (files : t.HasFiles places) {p : Location} (hp : p ∈ places) :
    ∃ node, (p, node) ∈ t.entries := by
  obtain ⟨-, bytes, access, node⟩ := files p hp
  exact ⟨_, mem_of_lookup (lookup_of_file node)⟩

theorem HasFiles.not_directory (files : t.HasFiles places) (h : place ∈ places) :
    t.isDirectory place = false := by
  obtain ⟨-, bytes, access, node⟩ := files place h
  rw [isDirectory, node]

theorem node?_without_of_under (nonempty : ∀ p ∈ places, p ≠ []) (under : isUnder places place = true) :
    (t.without places).node? place = none := by
  have gone : (t.without places).entries.lookup place = none := by
    refine Option.eq_none_iff_forall_ne_some.mpr fun node found => ?_
    have := (List.mem_filter.mp (mem_of_lookup found)).2
    simp [under] at this
  have nothing : ((t.without places).entries.any fun e => place.isPrefixOf e.1) = false := by
    refine List.any_eq_false.mpr fun e he below => ?_
    have := (List.mem_filter.mp he).2
    rw [isUnder_mono under (List.isPrefixOf_iff_prefix.mp below)] at this
    cases this
  have ne : place ≠ [] := by
    rintro rfl
    obtain ⟨p, hp, below⟩ := isUnder_iff.mp under
    exact nonempty p hp (List.prefix_nil.mp below)
  rw [node?, gone, nothing]
  simp [ne]

/-- Where nothing is listed, the directories that stay make up for the files that go. -/
theorem any_without (files : t.HasFiles places) (above : isUnder places place = false) :
    ((t.without places).entries.any fun e => place.isPrefixOf e.1) =
      t.entries.any fun e => place.isPrefixOf e.1 := by
  rw [Bool.eq_iff_iff, List.any_eq_true, List.any_eq_true]
  constructor
  · rintro ⟨e, he, below⟩
    cases List.mem_append.mp (List.mem_filter.mp he).1 with
    | inl h => exact ⟨e, h, below⟩
    | inr h =>
      obtain ⟨p, hp, rfl⟩ := List.mem_map.mp h
      obtain ⟨node, listed⟩ := files.listed hp
      have down := (List.isPrefixOf_iff_prefix.mp below).trans (List.dropLast_prefix p)
      exact ⟨(p, node), listed, List.isPrefixOf_iff_prefix.mpr down⟩
  · rintro ⟨e, he, below⟩
    cases under : isUnder places e.1 with
    | false => exact ⟨e, List.mem_filter.mpr ⟨List.mem_append_left _ he, by simp [under]⟩, below⟩
    | true =>
      obtain ⟨p, hp, hpe⟩ := isUnder_iff.mp under
      have down : place <+: p := by
        cases List.prefix_or_prefix_of_prefix (List.isPrefixOf_iff_prefix.mp below) hpe with
        | inl h => exact h
        | inr h => exact absurd h (isUnder_eq_false_iff.mp above p hp)
      obtain ⟨q, hq, hdown, habove⟩ := exists_last_above (fun p hp => (files p hp).1) above hp down
      refine ⟨(q.dropLast, .directory), List.mem_filter.mpr ⟨?_, by simp [habove]⟩,
        List.isPrefixOf_iff_prefix.mpr hdown⟩
      exact List.mem_append_right _ (List.mem_map.mpr ⟨q, hq, rfl⟩)

theorem node?_without_of_above (files : t.HasFiles places) (above : isUnder places place = false) :
    (t.without places).node? place = t.node? place := by
  have kept : (t.without places).entries.lookup place = (t.entries.lookup place).or
      ((places.map fun p => (p.dropLast, Node.directory)).lookup place) := by
    rw [without, lookup_filter_of_key (fun p => !isUnder places p) (by simp [above]),
      List.lookup_append]
  rw [node?, node?, kept, any_without files above]
  cases listed : t.entries.lookup place with
  | some node => rfl
  | none =>
    rw [Option.none_or]
    cases stays : (places.map fun p => (p.dropLast, Node.directory)).lookup place with
    | none => rfl
    | some node =>
      obtain ⟨p, hp, same⟩ := List.mem_map.mp (mem_of_lookup stays)
      obtain ⟨other, hother⟩ := files.listed hp
      obtain ⟨rfl, rfl⟩ := Prod.mk.inj same
      have below : (t.entries.any fun e => p.dropLast.isPrefixOf e.1) = true :=
        List.any_eq_true.mpr ⟨(p, other), hother,
          List.isPrefixOf_iff_prefix.mpr (List.dropLast_prefix p)⟩
      simp [below]

/-- Removing files takes away these files, with whatever would stand under them, and nothing else. -/
theorem node?_without (files : t.HasFiles places) (place : Location) :
    (t.without places).node? place = if isUnder places place then none else t.node? place := by
  cases under : isUnder places place with
  | true => exact node?_without_of_under (fun p hp => (files p hp).1) under
  | false => exact node?_without_of_above files under

theorem blocked?_of_under {segment : List Char}
    (named : (isSilent segment || segment = ['.', '.']) = false)
    (gone : t.node? (onward place segment) = none) : (t.blocked? place segment).isSome = true := by
  rw [blocked?, named]
  simp only [gone, Bool.false_eq_true, if_false, Option.isNone_none, if_true]
  split <;> rfl

/-- A walk that led to a removed file leads nowhere, and any other to where it led. -/
theorem toOption_walk_without (files : t.HasFiles places) (above : isUnder places place = false) :
    ((t.without places).walk place segments).toOption =
      (t.walk place segments).toOption.filter (!isUnder places ·) := by
  induction segments generalizing place with
  | nil => simp [walk, Except.toOption, Option.filter, above]
  | cons segment segments ih =>
    have here : (t.without places).isDirectory place = t.isDirectory place :=
      isDirectory_congr (node?_without_of_above files above)
    cases directory : t.isDirectory place with
    | false =>
      rw [directory] at here
      rw [walk_of_not_directory here, walk_of_not_directory directory]
      rfl
    | true =>
      rw [directory] at here
      rw [walk_of_directory here, walk_of_directory directory]
      cases under : isUnder places (onward place segment) with
      | false =>
        rw [blocked?_congr (node?_without_of_above files under)]
        cases t.blocked? place segment with
        | some fault => rfl
        | none => exact ih under
      | true =>
        obtain ⟨removed, named⟩ := isUnder_onward above under
        have gone : (t.without places).node? (onward place segment) = none :=
          node?_without_of_under (fun p hp => (files p hp).1) under
        obtain ⟨fault, blocked⟩ := Option.isSome_iff_exists.mp (blocked?_of_under named gone)
        rw [blocked]
        cases t.blocked? place segment with
        | some fault => rfl
        | none =>
          cases segments with
          | nil => simp [walk, Except.toOption, Option.filter, under]
          | cons next rest =>
            rw [walk_of_not_directory (files.not_directory removed)]
            rfl

/-- A walk from above that ends under files ends at one of them. -/
theorem mem_of_walk_under (files : t.HasFiles places) (above : isUnder places place = false)
    (h : t.walk place segments = .ok found) (under : isUnder places found = true) :
    found ∈ places := by
  induction segments generalizing place with
  | nil =>
    cases h
    rw [above] at under
    cases under
  | cons segment segments ih =>
    obtain ⟨-, -, rest⟩ := walk_cons_eq_ok_iff.mp h
    cases next : isUnder places (onward place segment) with
    | false => exact ih next rest
    | true =>
      have removed := (isUnder_onward above next).1
      cases segments with
      | nil =>
        cases rest
        exact removed
      | cons segment segments =>
        obtain ⟨directory, -, -⟩ := walk_cons_eq_ok_iff.mp rest
        rw [files.not_directory removed] at directory
        cases directory

/-- A way from above that leads to none of some places leads nowhere under them. -/
theorem above_of_mem_wayFrom (above : isUnder places place = false)
    (avoids : ∀ p ∈ places, p ∉ t.wayFrom place segments) (h : found ∈ t.wayFrom place segments) :
    isUnder places found = false := by
  induction segments generalizing place with
  | nil =>
    obtain rfl := List.mem_singleton.mp h
    exact above
  | cons segment segments ih =>
    cases directory : t.isDirectory place with
    | false =>
      rw [wayFrom_of_not_directory directory] at h
      obtain rfl := List.mem_singleton.mp h
      exact above
    | true =>
      rw [wayFrom_of_directory directory] at h avoids
      cases List.mem_cons.mp h with
      | inl here =>
        subst here
        exact above
      | inr h =>
        refine ih ?_ (fun p hp hway => avoids p hp (List.mem_cons_of_mem place hway)) h
        refine Bool.eq_false_iff.mpr fun under => ?_
        exact avoids _ (isUnder_onward above under).1
          (List.mem_cons_of_mem place (t.mem_wayFrom_self _ segments))

end FileTree

end LintRepair.Files
