import LintRepair.Proofs.Files.Removal

/-! # What writing changes

Writing to a path changes one place of a tree: a file there gets new bytes, or a file is created in a
directory. Nothing else changes, and a path that cannot be written changes nothing at all.
-/

namespace LintRepair.Files.FileTree

variable {t t' : FileTree} {cwd place other parent found : Location} {name segment : List Char}
  {segments : List (List Char)} {path : FilePath} {node : Node} {bytes : ByteArray}

theorem isDirectory_iff : t.isDirectory place = true ↔ t.node? place = some .directory := by
  rw [isDirectory]
  cases t.node? place with
  | none => simp
  | some node => cases node <;> simp

/-- What leads to a directory is the root or leads to something listed. -/
theorem leads_of_isDirectory (directory : t.isDirectory place = true) (above : other <+: place) :
    (other.isEmpty || t.entries.any fun e => other.isPrefixOf e.1) = true := by
  have listed {e : Location × Node} (he : e ∈ t.entries) (below : place <+: e.1) :
      (other.isEmpty || t.entries.any fun e => other.isPrefixOf e.1) = true := by
    rw [Bool.or_eq_true, List.any_eq_true]
    exact .inr ⟨e, he, List.isPrefixOf_iff_prefix.mpr (above.trans below)⟩
  have stands := isDirectory_iff.mp directory
  rw [node?] at stands
  split at stands
  · rename_i node found
    exact listed (mem_of_lookup found) (List.prefix_refl place)
  · split at stands
    · rename_i leads
      rcases (Bool.or_eq_true _ _).mp leads with empty | leads
      · rw [List.isEmpty_iff] at empty
        subst empty
        simp [List.prefix_nil.mp above]
      · obtain ⟨e, he, below⟩ := List.any_eq_true.mp leads
        exact listed he (List.isPrefixOf_iff_prefix.mp below)
    · cases stands

theorem isSome_node?_of_above (directory : t.isDirectory place = true) (above : other <+: place) :
    (t.node? other).isSome = true := by
  rw [node?]
  cases t.entries.lookup other with
  | some node => rfl
  | none => simp [leads_of_isDirectory directory above]

theorem walk_append (t : FileTree) (place : Location) (before after : List (List Char)) :
    t.walk place (before ++ after) =
      match t.walk place before with
      | .ok found => t.walk found after
      | .error cause => .error cause := by
  induction before generalizing place with
  | nil => rfl
  | cons segment before ih =>
    rw [List.cons_append, walk_cons, walk_cons]
    cases t.isDirectory place with
    | false => rfl
    | true =>
      cases t.blocked? place segment with
      | none => exact ih _
      | some fault => rfl

theorem isSome_node?_onward (directory : t.isDirectory place = true)
    (free : t.blocked? place segment = none) : (t.node? (onward place segment)).isSome = true := by
  rw [blocked?] at free
  by_cases silent : isSilent segment = true
  · rw [onward, if_pos silent]
    exact isSome_node?_of_above directory (List.prefix_refl place)
  · by_cases up : segment = ['.', '.']
    · rw [onward, if_neg silent, if_pos up]
      exact isSome_node?_of_above directory (List.dropLast_prefix place)
    · by_cases long : byteLength segment > nameLimit
      · simp [silent, up, long] at free
      · rw [Option.isSome_iff_ne_none]
        simpa [silent, up, long] using free

/-- A walk that takes any segment ends at something. -/
theorem isSome_node?_of_walk (nonempty : segments ≠ []) (h : t.walk place segments = .ok found) :
    (t.node? found).isSome = true := by
  rw [← List.dropLast_concat_getLast nonempty, walk_append] at h
  cases front : t.walk place segments.dropLast with
  | error cause =>
    rw [front] at h
    cases h
  | ok last =>
    rw [front] at h
    obtain ⟨directory, free, here⟩ := walk_cons_eq_ok_iff.mp h
    cases here
    exact isSome_node?_onward directory free

theorem isSome_node?_of_resolve (h : t.resolve cwd path = .ok place) :
    (t.node? place).isSome = true :=
  isSome_node?_of_walk (splitSlash_ne_nil _) (walk_of_resolve h)

/-- Whether segments lead to a new name in a directory. -/
def Creates (t : FileTree) (place : Location) (segments : List (List Char)) (found : Location) :
    Prop :=
  ∃ front parent name, segments = front ++ [name] ∧ t.walk place front = .ok parent ∧
    found = parent ++ [name] ∧ t.isDirectory parent = true ∧ t.node? found = none

theorem Creates.cons {next : Location} {segment : List Char}
    (first : ∀ after, t.walk place (segment :: after) = t.walk next after)
    (h : t.Creates next segments found) : t.Creates place (segment :: segments) found := by
  obtain ⟨front, parent, name, rfl, walked, new⟩ := h
  exact ⟨segment :: front, parent, name, rfl, (first front).trans walked, new⟩

/-- What is opened for writing is what the segments lead to, or else a new name in a directory. -/
theorem reach_cases (h : t.reach place segments = .ok found) :
    t.walk place segments = .ok found ∨ t.Creates place segments found := by
  fun_induction t.reach place segments with
  | case1 place => exact .inl h
  | case3 place segment segments directory silent ih =>
    have first after : t.walk place (segment :: after) = t.walk place after := by
      rw [walk, if_neg directory, if_pos silent]
    exact (ih h).imp (first segments).trans (.cons first)
  | case4 place segments directory loud ih =>
    have first after : t.walk place (['.', '.'] :: after) = t.walk place.dropLast after := by
      rw [walk, if_neg directory, if_neg loud, if_pos rfl]
    exact (ih h).imp (first segments).trans (.cons first)
  | case7 place segment segments directory loud up _ short node there ih =>
    have first after : t.walk place (segment :: after) = t.walk (place ++ [segment]) after := by
      rw [walk, if_neg directory, if_neg loud, if_neg up, if_neg short, there]
    exact (ih h).imp (first segments).trans (.cons first)
  | case8 place segment segments directory _ _ _ _ absent last =>
    cases h
    rw [List.isEmpty_iff.mp last]
    exact .inr ⟨[], place, segment, rfl, rfl, rfl, by simpa using directory, absent⟩
  | _ => cases h

/-- Writing goes to what a path names, or else to a new name in a directory. -/
theorem target_cases (h : t.target cwd path = .ok place) :
    t.resolve cwd path = .ok place ∨ t.Creates (origin cwd path) path.segments place := by
  rw [target] at h
  rw [resolve]
  cases fault : pathFault? path with
  | some fault => simp [fault] at h
  | none =>
    simp only [fault] at h ⊢
    exact reach_cases h

/-- Where a name alone leads is in the current directory. -/
theorem target_of_name (relative : path.isAbsolute = false) (single : path.segments = [name])
    (named : (isSilent name || name = ['.', '.']) = false) (h : t.target cwd path = .ok place) :
    place = cwd ++ [name] := by
  have start : origin cwd path = cwd := by simp [origin, relative]
  obtain ⟨loud, up⟩ : isSilent name = false ∧ name ≠ ['.', '.'] := by simpa using named
  rcases target_cases h with resolved | ⟨front, parent, last, split, walked, rfl, -, -⟩
  · have here := eq_foldl_of_walk (walk_of_resolve resolved)
    rw [start, single] at here
    simpa [onward, loud, up] using here
  · have same : [] ++ [name] = front ++ [last] := single.symm.trans split
    obtain ⟨rfl, ⟨⟩⟩ := List.append_inj' same rfl
    rw [start] at walked
    cases walked
    rfl

theorem absent_of_not_exists (h : t.target cwd path = .ok place)
    (missing : t.exists? cwd path = false) : t.node? place = none := by
  rcases target_cases h with resolved | ⟨-, -, -, -, -, -, -, absent⟩
  · simp [exists?, resolved] at missing
  · exact absent

/-- A file that is new in a directory changes nothing elsewhere. -/
theorem node?_put_new (directory : t.isDirectory parent = true)
    (absent : t.node? (parent ++ [name]) = none) :
    (t.put (parent ++ [name]) node).node? other =
      if other = parent ++ [name] then some node else t.node? other := by
  have unlisted : t.entries.lookup (parent ++ [name]) = none := by
    rw [node?] at absent
    split at absent
    · cases absent
    · assumption
  rw [put, unlisted, if_neg (by simp)]
  by_cases same : other = parent ++ [name]
  · simp [node?, List.lookup_append, same, unlisted]
  · have listed : (t.entries ++ [(parent ++ [name], node)]).lookup other = t.entries.lookup other := by
      rw [List.lookup_append, List.lookup_cons, beq_false_of_ne same]
      exact Option.or_none
    have leads : (other.isEmpty || (t.entries ++ [(parent ++ [name], node)]).any fun e =>
          other.isPrefixOf e.1) = (other.isEmpty || t.entries.any fun e => other.isPrefixOf e.1) := by
      rw [List.any_append]
      cases above : other.isPrefixOf (parent ++ [name]) with
      | false => simp [above]
      | true =>
        have up : other <+: parent :=
          (List.prefix_concat_iff.mp (List.isPrefixOf_iff_prefix.mp above)).resolve_left same
        rw [leads_of_isDirectory directory up, ← Bool.or_assoc, leads_of_isDirectory directory up,
          Bool.true_or]
    rw [node?, node?, listed, leads, if_neg same]

/-- What writing does to a tree: there is a file with the bytes at a place where there was a file, which
    keeps its kind, or nothing; all other places are as before. -/
structure Written (t t' : FileTree) (place : Location) (bytes : ByteArray) : Prop where
  there : ∃ access, t'.node? place = some (.file bytes access) ∧
    (t.node? place = none ∨ ∃ old, t.node? place = some (.file old access))
  others : ∀ other, other ≠ place → t'.node? other = t.node? other

theorem written_of_write (h : t.write cwd path bytes = .ok t') :
    ∃ place, t.target cwd path = .ok place ∧ t.Written t' place bytes := by
  rw [write] at h
  cases target : t.target cwd path with
  | error cause => simp [target] at h
  | ok place =>
    refine ⟨place, rfl, ?_⟩
    cases node : t.node? place with
    | none =>
      obtain rfl : t.put place (.file bytes .full) = t' := by simpa [target, node] using h
      rcases target_cases target with resolved | ⟨-, parent, name, -, -, rfl, directory, absent⟩
      · have there := isSome_node?_of_resolve resolved
        rw [node] at there
        cases there
      · exact ⟨⟨.full, by rw [node?_put_new directory absent, if_pos rfl], .inl node⟩,
          fun other ne => by rw [node?_put_new directory absent, if_neg ne]⟩
    | some n =>
      cases n with
      | directory => simp [target, node] at h
      | file old access =>
        cases writable : access.canWrite with
        | false => simp [target, node, writable] at h
        | true =>
          obtain rfl : t.put place (.file bytes access) = t' := by
            simpa [target, node, writable] using h
          exact ⟨⟨access, by rw [node?_put node, if_pos rfl], .inr ⟨old, node⟩⟩,
            fun other ne => by rw [node?_put node, if_neg ne]⟩

end LintRepair.Files.FileTree
