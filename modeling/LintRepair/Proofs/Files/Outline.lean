import LintRepair.Files.Tree

/-! # Writing keeps the outline of a tree

The outline of a tree says where directories and files stand and what may be done with the files, but
not what is in them. Paths are resolved by the outline alone. Writing to a file that is there keeps the
outline, and changes what stands at the place of the file and nothing else.
-/

namespace LintRepair.Files

/-- What may be done with a file; nothing for a directory. -/
def Node.kind : Node → Option Access
  | .directory => none
  | .file _ access => some access

/-- The places of a list and what kind of thing stands at each. -/
def outlineOf (entries : List (Location × Node)) : List (Location × Option Access) :=
  entries.map fun e => (e.1, e.2.kind)

/-- What kind of thing stands at a place of an outline. -/
def kindIn (outline : List (Location × Option Access)) (place : Location) : Option (Option Access) :=
  match outline.lookup place with
  | some kind => some kind
  | none => if place.isEmpty || outline.any fun e => place.isPrefixOf e.1 then some none else none

theorem lookup_outlineOf (entries : List (Location × Node)) (place : Location) :
    (outlineOf entries).lookup place = (entries.lookup place).map Node.kind := by
  induction entries with
  | nil => rfl
  | cons e es ih =>
    obtain ⟨key, node⟩ := e
    simp only [outlineOf, List.map_cons, List.lookup_cons]
    cases place == key with
    | true => rfl
    | false => exact ih

namespace FileTree

variable {t t' : FileTree} {place other found : Location} {node : Node} {bytes bytes' : ByteArray}
  {access : Access} {cwd : Location} {path : FilePath} {segments : List (List Char)}

def outline (t : FileTree) : List (Location × Option Access) := outlineOf t.entries

/-- Where nothing is listed, the outline decides. -/
theorem node?_eq (t : FileTree) (place : Location) : t.node? place =
    match t.entries.lookup place with
    | some node => some node
    | none =>
      if place.isEmpty || t.outline.any fun e => place.isPrefixOf e.1 then some .directory
      else none := by
  have prefixes : t.outline.any (fun e => place.isPrefixOf e.1) =
      t.entries.any fun e => place.isPrefixOf e.1 := by
    simp [outline, outlineOf, List.any_map, Function.comp_def]
  rw [prefixes]
  rfl

theorem kind_node? (t : FileTree) (place : Location) :
    (t.node? place).map Node.kind = kindIn t.outline place := by
  have listed : t.outline.lookup place = (t.entries.lookup place).map Node.kind :=
    lookup_outlineOf t.entries place
  rw [node?_eq, kindIn, listed]
  cases t.entries.lookup place with
  | some node => rfl
  | none =>
    simp only [Option.map_none]
    split <;> rfl

theorem isDirectory_eq (t : FileTree) (place : Location) :
    t.isDirectory place = (kindIn t.outline place == some none) := by
  rw [isDirectory, ← kind_node?]
  cases t.node? place with
  | none => rfl
  | some node => cases node <;> rfl

theorem isSome_node? (t : FileTree) (place : Location) :
    (t.node? place).isSome = (kindIn t.outline place).isSome := by
  rw [← kind_node?, Option.isSome_map]

/-- Paths are resolved by the outline alone. -/
theorem walk_eq_of_outline (h : t.outline = t'.outline) (segments : List (List Char))
    (place : Location) : t.walk place segments = t'.walk place segments := by
  induction segments generalizing place with
  | nil => rfl
  | cons segment segments ih =>
    have there : (t.node? (place ++ [segment])).isSome = (t'.node? (place ++ [segment])).isSome := by
      rw [isSome_node?, isSome_node?, h]
    simp only [walk, isDirectory_eq, h, ih]
    cases ht : t.node? (place ++ [segment]) with
    | none =>
      cases ht' : t'.node? (place ++ [segment]) with
      | none => rfl
      | some node' => simp [ht, ht'] at there
    | some node =>
      cases ht' : t'.node? (place ++ [segment]) with
      | none => simp [ht, ht'] at there
      | some node' => rfl

theorem resolve_eq_of_outline (h : t.outline = t'.outline) (cwd : Location) (path : FilePath) :
    t.resolve cwd path = t'.resolve cwd path := by
  simp only [resolve, walk_eq_of_outline h]

theorem lookup_replaceIn {entries : List (Location × Node)} (h : (entries.lookup place).isSome) :
    (replaceIn place node entries).lookup other =
      if other = place then some node else entries.lookup other := by
  induction entries with
  | nil => cases h
  | cons e es ih =>
    obtain ⟨key, old⟩ := e
    by_cases hkey : key = place
    · subst hkey
      by_cases hother : other = key
      · simp [replaceIn, hother]
      · simp [replaceIn, List.lookup_cons, hother, beq_false_of_ne hother]
    · have rest : (es.lookup place).isSome := by
        rwa [List.lookup_cons, beq_false_of_ne (Ne.symm hkey)] at h
      simp only [replaceIn, hkey, if_false, List.lookup_cons, ih rest]
      cases hother : other == key with
      | true =>
        have : other ≠ place := by simpa [eq_of_beq hother] using hkey
        simp [this]
      | false => rfl

theorem outlineOf_replaceIn {entries : List (Location × Node)} {old : Node}
    (h : entries.lookup place = some old) (hkind : node.kind = old.kind) :
    outlineOf (replaceIn place node entries) = outlineOf entries := by
  induction entries with
  | nil => cases h
  | cons e es ih =>
    obtain ⟨key, first⟩ := e
    by_cases hkey : key = place
    · subst hkey
      obtain rfl : first = old := by simpa using h
      simp [replaceIn, outlineOf, hkind]
    · have rest : es.lookup place = some old := by
        rwa [List.lookup_cons, beq_false_of_ne (Ne.symm hkey)] at h
      have tail := ih rest
      simp only [replaceIn, hkey, if_false]
      simpa [outlineOf] using tail

theorem lookup_of_file (h : t.node? place = some (.file bytes access)) :
    t.entries.lookup place = some (.file bytes access) := by
  rw [node?] at h
  split at h
  · rename_i node hnode
    rw [hnode, h]
  · split at h <;> cases h

/-- New bytes in a file keep the outline. -/
theorem outline_put (h : t.node? place = some (.file bytes access)) :
    (t.put place (.file bytes' access)).outline = t.outline := by
  have listed := lookup_of_file h
  rw [put, if_pos (by simp [listed])]
  exact outlineOf_replaceIn listed rfl

/-- New bytes in a file change what stands at its place and nothing else. -/
theorem node?_put (h : t.node? place = some (.file bytes access)) :
    (t.put place (.file bytes' access)).node? other =
      if other = place then some (.file bytes' access) else t.node? other := by
  have listed := lookup_of_file h
  have found : (t.put place (.file bytes' access)).entries.lookup other =
      if other = place then some (.file bytes' access) else t.entries.lookup other := by
    rw [put, if_pos (by simp [listed])]
    exact lookup_replaceIn (by simp [listed])
  rw [node?_eq, node?_eq, outline_put h, found]
  by_cases hother : other = place
  · simp only [hother, if_true]
  · simp only [hother, if_false]

/-- What slashes stand behind is a directory. -/
theorem isDirectory_of_walk_slashes (nonempty : segments.isEmpty = false)
    (slashes : segments.all (·.isEmpty) = true) (h : t.walk place segments = .ok found) :
    t.isDirectory found = true := by
  induction segments with
  | nil => cases nonempty
  | cons segment segments ih =>
    obtain ⟨empty, slashes⟩ : segment = [] ∧ segments.all (·.isEmpty) = true := by
      simpa using slashes
    cases directory : t.isDirectory place with
    | false => simp [walk, directory] at h
    | true =>
      have rest : t.walk place segments = .ok found := by
        simpa [walk, directory, empty, isSilent] using h
      cases last : segments.isEmpty with
      | true =>
        rw [List.isEmpty_iff.mp last] at rest
        cases rest
        exact directory
      | false => exact ih last slashes rest

/-- A file that is there is opened where its path leads. -/
theorem reach_of_walk (h : t.walk place segments = .ok found) (file : t.isDirectory found = false) :
    t.reach place segments = .ok found := by
  fun_induction t.walk place segments with
  | case1 place => exact h
  | case3 place segment segments directory silent ih =>
    rw [reach, if_neg directory, if_pos silent]
    exact ih h
  | case4 place segments directory loud ih =>
    rw [reach, if_neg directory, if_neg loud, if_pos rfl]
    exact ih h
  | case7 place segment segments directory loud up short node there ih =>
    have name : (!segments.isEmpty && segments.all (·.isEmpty)) ≠ true := by
      intro closed
      obtain ⟨nonempty, slashes⟩ := (Bool.and_eq_true _ _).mp closed
      rw [Bool.not_eq_true'] at nonempty
      rw [isDirectory_of_walk_slashes nonempty slashes h] at file
      cases file
    rw [reach, if_neg directory, if_neg loud, if_neg up, if_neg name, if_neg short, there]
    exact ih h
  | _ => cases h

theorem target_of_file (resolved : t.resolve cwd path = .ok place)
    (h : t.node? place = some (.file bytes access)) : t.target cwd path = .ok place := by
  rw [resolve] at resolved
  rw [target]
  cases fault : pathFault? path with
  | some fault => simp [fault] at resolved
  | none =>
    simp only [fault] at resolved ⊢
    exact reach_of_walk resolved (by simp [isDirectory, h])

theorem write_of_file (resolved : t.resolve cwd path = .ok place)
    (h : t.node? place = some (.file bytes access)) :
    t.write cwd path bytes' =
      if access.canWrite then .ok (t.put place (.file bytes' access)) else .error .denied := by
  simp only [write, target_of_file resolved h, h]

theorem read_of_file (resolved : t.resolve cwd path = .ok place)
    (h : t.node? place = some (.file bytes access)) :
    t.read cwd path = if access.canRead then .ok bytes else .error .denied := by
  simp only [read, resolved, h]

theorem file_of_read (h : t.read cwd path = .ok bytes) :
    ∃ place access, t.resolve cwd path = .ok place ∧
      t.node? place = some (.file bytes access) ∧ access.canRead = true := by
  rw [read] at h
  split at h
  · cases h
  · rename_i place resolved
    split at h
    · cases h
    · cases h
    · rename_i found access node
      split at h
      · rename_i readable
        cases h
        exact ⟨place, access, resolved, node, readable⟩
      · cases h

/-- New bytes in a file that can be read are read from it. -/
theorem read_of_write (read : t.read cwd path = .ok bytes) (h : t.write cwd path bytes' = .ok t') :
    t'.read cwd path = .ok bytes' := by
  obtain ⟨place, access, resolved, node, readable⟩ := file_of_read read
  rw [write_of_file resolved node] at h
  split at h
  · cases h
    have outline : (t.put place (.file bytes' access)).outline = t.outline := outline_put node
    rw [← resolve_eq_of_outline outline] at resolved
    have written : (t.put place (.file bytes' access)).node? place = some (.file bytes' access) := by
      rw [node?_put node, if_pos rfl]
    rw [read_of_file resolved written, if_pos readable]
  · cases h

/-- The same bytes written to a file again leave everything as it is. -/
theorem node?_of_rewrite (read : t.read cwd path = .ok bytes) (h : t.write cwd path bytes = .ok t') :
    t'.node? other = t.node? other := by
  obtain ⟨place, access, resolved, node, -⟩ := file_of_read read
  rw [write_of_file resolved node] at h
  split at h
  · cases h
    rw [node?_put node]
    split
    · rename_i here
      rw [here, node]
    · rfl
  · cases h

end FileTree

end LintRepair.Files
