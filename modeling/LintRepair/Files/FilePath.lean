/-! # Paths

A path is a text whose segments are separated by slashes. It is shown in the spelling it was given.
Two spellings are compared by their components, which leave out empty segments and single dots, but
for a dot that starts a relative path.
-/

namespace LintRepair.Files

/-- A path as it is spelled. -/
structure FilePath where
  text : String
  deriving DecidableEq, Repr, Inhabited

/-- Cuts a text at its slashes. -/
def splitSlash : List Char → List (List Char)
  | [] => [[]]
  | c :: rest =>
    if c = '/' then [] :: splitSlash rest
    else match splitSlash rest with
      | [] => [[c]]
      | segment :: segments => (c :: segment) :: segments

/-- Puts slashes between segments. -/
def joinSlash : List (List Char) → List Char
  | [] => []
  | [segment] => segment
  | segment :: segments => segment ++ '/' :: joinSlash segments

theorem splitSlash_ne_nil (cs : List Char) : splitSlash cs ≠ [] := by
  cases cs with
  | nil => simp [splitSlash]
  | cons c rest =>
    simp only [splitSlash]
    split
    · simp
    · split <;> simp

theorem joinSlash_cons {segments : List (List Char)} (segment : List Char) (h : segments ≠ []) :
    joinSlash (segment :: segments) = segment ++ '/' :: joinSlash segments := by
  cases segments with
  | nil => exact absurd rfl h
  | cons s ss => rfl

theorem joinSlash_splitSlash (cs : List Char) : joinSlash (splitSlash cs) = cs := by
  induction cs with
  | nil => rfl
  | cons c rest ih =>
    simp only [splitSlash]
    split
    · rename_i hc
      rw [joinSlash_cons [] (splitSlash_ne_nil rest), ih, hc, List.nil_append]
    · cases hs : splitSlash rest with
      | nil => exact absurd hs (splitSlash_ne_nil rest)
      | cons segment segments =>
        rw [hs] at ih
        simp only
        cases segments with
        | nil => simpa [joinSlash] using ih
        | cons s ss => simpa [joinSlash] using ih

/-- What a segment of a path stands for. -/
inductive Component where
  | root
  | here
  | up
  | name (chars : List Char)
  deriving DecidableEq, Repr

/-- Whether a segment that is not the first stands for anything. -/
def isSilent (segment : List Char) : Bool := segment == [] || segment == ['.']

namespace Component

/-- The component of a segment that is not silent. -/
def ofSegment (segment : List Char) : Component :=
  if segment = ['.', '.'] then .up else .name segment

end Component

namespace FilePath

def segments (p : FilePath) : List (List Char) := splitSlash p.text.toList

/-- Whether the path starts at the root. -/
def isAbsolute (p : FilePath) : Bool := p.text.toList.head? == some '/'

/-- The components that the first segment of a path stands for. -/
def firstComponents (absolute : Bool) (segment : List Char) : List Component :=
  if absolute then [.root]
  else if segment = [] then []
  else if segment = ['.'] then [.here]
  else [.ofSegment segment]

/-- The components of a path. -/
def components (p : FilePath) : List Component :=
  match p.segments with
  | [] => []
  | first :: others =>
    firstComponents p.isAbsolute first ++
      (others.filter (!isSilent ·)).map Component.ofSegment

/-- Whether two spellings have the same components. -/
def same (p q : FilePath) : Bool := p.components == q.components

/-- Drops silent segments from the end. -/
def dropSilentEnd (segments : List (List Char)) : List (List Char) :=
  (segments.reverse.dropWhile isSilent).reverse

/-- The path without its last component; the root and the empty path have no parent. -/
def parent? (p : FilePath) : Option FilePath :=
  match p.segments with
  | [] => none
  | first :: others =>
    match (dropSilentEnd others).reverse with
    | [] => if p.isAbsolute || first = [] then none else some ⟨""⟩
    | _ :: before =>
      let kept := first :: dropSilentEnd before.reverse
      if p.isAbsolute && kept.length = 1 then some ⟨"/"⟩
      else some ⟨String.ofList (joinSlash kept)⟩

/-- A file in the directory that the path names. -/
def file (p : FilePath) (name : String) : FilePath :=
  if p.text.isEmpty || p.text.toList.getLast? == some '/' then ⟨p.text ++ name⟩
  else ⟨p.text ++ "/" ++ name⟩

end FilePath

end LintRepair.Files
