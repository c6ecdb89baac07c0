import LintRepair.Proofs.Files.Component
import LintRepair.Proofs.Files.Way

/-! # Files in a directory

A file in the directory that a path names is named by a path of its own. If that path leads anywhere, it
leads to the name of the file below the place of the directory, in every tree.
-/

namespace LintRepair.Files.FileTree

variable {t t' : FileTree} {cwd place found : Location} {path : FilePath} {name : String}

/-- The segments of a file are those of its directory and its name, but for a last one that is empty. -/
theorem segments_file (path : FilePath) (noSlash : '/' ∉ name.toList) :
    ∃ front tail, path.segments = front ++ tail ∧ (tail = [] ∨ tail = [[]]) ∧
      (path.file name).segments = front ++ [name.toList] := by
  rw [FilePath.file]
  split
  · rename_i joined
    rcases (Bool.or_eq_true _ _).mp joined with empty | slash
    · rw [FilePath.segments, FilePath.segments, String.isEmpty_iff.mp empty, String.empty_append,
        splitSlash_of_not_mem noSlash]
      exact ⟨[], [[]], rfl, .inr rfl, rfl⟩
    · obtain ⟨front, text⟩ := List.getLast?_eq_some_iff.mp (eq_of_beq slash)
      refine ⟨splitSlash front, [[]], ?_, .inr rfl, ?_⟩
      · rw [FilePath.segments, text, splitSlash_append]
        rfl
      · rw [FilePath.segments, String.toList_append, text, List.append_assoc, List.singleton_append,
          splitSlash_append, splitSlash_of_not_mem noSlash]
  · have text : (path.text ++ "/" ++ name).toList = path.text.toList ++ '/' :: name.toList := by
      simp [String.toList_append]
    refine ⟨path.segments, [], (List.append_nil _).symm, .inl rfl, ?_⟩
    rw [FilePath.segments, text, splitSlash_append, splitSlash_of_not_mem noSlash]
    rfl

theorem origin_file (cwd : Location) (path : FilePath) (noSlash : '/' ∉ name.toList) :
    origin cwd (path.file name) = origin cwd path := by
  have relative : name.toList.head? ≠ some '/' := fun slash => noSlash (List.mem_of_head? slash)
  have absolute : (path.file name).isAbsolute = path.isAbsolute := by
    rw [FilePath.isAbsolute, FilePath.isAbsolute, FilePath.file]
    cases text : path.text.toList with
    | nil =>
      have empty : path.text = "" := by simpa using text
      simpa [empty] using relative
    | cons c cs => split <;> simp [String.toList_append, text]
  rw [origin, origin, absolute]

/-- A file in a directory is found, if at all, under its name there. -/
theorem eq_of_resolve_file (directory : t.walk (origin cwd path) path.segments = .ok place)
    (h : t'.resolve cwd (path.file name) = .ok found) (noSlash : '/' ∉ name.toList)
    (named : (isSilent name.toList || name.toList = ['.', '.']) = false) :
    found = place ++ [name.toList] := by
  obtain ⟨front, tail, split, silent, segments⟩ := segments_file path noSlash
  obtain ⟨loud, up⟩ : isSilent name.toList = false ∧ name.toList ≠ ['.', '.'] := by simpa using named
  calc found = (path.file name).segments.foldl onward (origin cwd (path.file name)) :=
        eq_foldl_of_walk (walk_of_resolve h)
    _ = onward (front.foldl onward (origin cwd path)) name.toList := by
        rw [segments, origin_file cwd path noSlash, List.foldl_append, List.foldl_cons, List.foldl_nil]
    _ = front.foldl onward (origin cwd path) ++ [name.toList] := by simp [onward, loud, up]
    _ = place ++ [name.toList] := by
        rw [eq_foldl_of_walk directory, split, List.foldl_append]
        rcases silent with rfl | rfl <;> rfl

end LintRepair.Files.FileTree
