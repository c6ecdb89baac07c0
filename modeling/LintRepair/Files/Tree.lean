import LintRepair.Files.FilePath

/-! # File trees

A tree of directories and files, and what reading and writing by path do with it. Paths are resolved
one segment after the other from the root or from a current directory; each segment but the last has
to name a directory.
-/

namespace LintRepair.Files

/-- What may be done with a file. -/
inductive Access where
  | full
  | readOnly
  | writeOnly
  deriving DecidableEq, Repr

def Access.canRead : Access → Bool
  | .full => true
  | .readOnly => true
  | .writeOnly => false

def Access.canWrite : Access → Bool
  | .full => true
  | .readOnly => false
  | .writeOnly => true

/-- What stands at a place of a tree. -/
inductive Node where
  | directory
  | file (bytes : ByteArray) (access : Access)

/-- A place in a tree: the names on the way from the root. -/
abbrev Location := List (List Char)

/-- Why a file could not be read or written. -/
inductive AccessFault where
  | notFound
  | denied
  | notDirectory
  | isDirectory
  | nameTooLong
  | nulInPath
  | notText
  | other (message : String)
  deriving DecidableEq, Repr

/-- The wording of a fault. -/
def AccessFault.message : AccessFault → String
  | .notFound => "No such file or directory (os error 2)"
  | .denied => "Permission denied (os error 13)"
  | .notDirectory => "Not a directory (os error 20)"
  | .isDirectory => "Is a directory (os error 21)"
  | .nameTooLong => "File name too long (os error 36)"
  | .nulInPath => "file name contained an unexpected NUL byte"
  | .notText => "stream did not contain valid UTF-8"
  | .other message => message

/-- A tree of files. Every directory on the way to a listed place exists, listed or not. -/
structure FileTree where
  entries : List (Location × Node)

namespace FileTree

def empty : FileTree := ⟨[]⟩

/-- What stands at a place, if anything does. -/
def node? (t : FileTree) (place : Location) : Option Node :=
  match t.entries.lookup place with
  | some node => some node
  | none =>
    if place.isEmpty || t.entries.any fun e => place.isPrefixOf e.1 then some .directory else none

def isDirectory (t : FileTree) (place : Location) : Bool :=
  match t.node? place with
  | some .directory => true
  | _ => false

/-- Replaces what stands at a listed place. -/
def replaceIn (place : Location) (node : Node) :
    List (Location × Node) → List (Location × Node)
  | [] => []
  | e :: es => if e.1 = place then (place, node) :: es else e :: replaceIn place node es

/-- Puts something at a place. -/
def put (t : FileTree) (place : Location) (node : Node) : FileTree :=
  if (t.entries.lookup place).isSome then ⟨replaceIn place node t.entries⟩
  else ⟨t.entries ++ [(place, node)]⟩

/-- The number of bytes of a text. -/
def byteLength (cs : List Char) : Nat := cs.foldl (fun size c => size + c.utf8Size) 0

/-- The longest name of a file, in bytes. -/
def nameLimit : Nat := 255

/-- Paths of this many bytes and more are refused. -/
def pathLimit : Nat := 4096

/-- Follows segments from a place on. Empty segments and dots stay where they are, and two dots lead
    back; the root leads back to itself. -/
def walk (t : FileTree) (place : Location) : List (List Char) → Except AccessFault Location
  | [] => .ok place
  | segment :: segments =>
    if !t.isDirectory place then .error .notDirectory
    else if isSilent segment then t.walk place segments
    else if segment = ['.', '.'] then t.walk place.dropLast segments
    else if byteLength segment > nameLimit then .error .nameTooLong
    else match t.node? (place ++ [segment]) with
      | none => .error .notFound
      | some _ => t.walk (place ++ [segment]) segments

/-- The place from which a path starts. -/
def origin (cwd : Location) (p : FilePath) : Location := if p.isAbsolute then [] else cwd

/-- Faults of a path that need no tree. -/
def pathFault? (p : FilePath) : Option AccessFault :=
  if p.text.toList.contains '\x00' then some .nulInPath
  else if p.text.isEmpty then some .notFound
  else if byteLength p.text.toList ≥ pathLimit then some .nameTooLong
  else none

/-- The existing place that a path names. -/
def resolve (t : FileTree) (cwd : Location) (p : FilePath) : Except AccessFault Location :=
  match pathFault? p with
  | some fault => .error fault
  | none => t.walk (origin cwd p) p.segments

/-- Whether a path names anything. -/
def exists? (t : FileTree) (cwd : Location) (p : FilePath) : Bool :=
  match t.resolve cwd p with
  | .ok _ => true
  | .error _ => false

/-- The bytes of the file that a path names. -/
def read (t : FileTree) (cwd : Location) (p : FilePath) : Except AccessFault ByteArray :=
  match t.resolve cwd p with
  | .error fault => .error fault
  | .ok place =>
    match t.node? place with
    | none => .error .notFound
    | some .directory => .error .isDirectory
    | some (.file bytes access) => if access.canRead then .ok bytes else .error .denied

/-- Follows segments from a place on to the file that is opened for writing. Only the last name may be
    new, and a name before a slash that ends the path asks for a directory. -/
def reach (t : FileTree) (place : Location) : List (List Char) → Except AccessFault Location
  | [] => .ok place
  | segment :: segments =>
    if !t.isDirectory place then .error .notDirectory
    else if isSilent segment then t.reach place segments
    else if segment = ['.', '.'] then t.reach place.dropLast segments
    else if !segments.isEmpty && segments.all (·.isEmpty) then .error .isDirectory
    else if byteLength segment > nameLimit then .error .nameTooLong
    else match t.node? (place ++ [segment]) with
      | some _ => t.reach (place ++ [segment]) segments
      | none => if segments.isEmpty then .ok (place ++ [segment]) else .error .notFound

/-- The place of the file that writing to a path replaces or creates. -/
def target (t : FileTree) (cwd : Location) (p : FilePath) : Except AccessFault Location :=
  match pathFault? p with
  | some fault => .error fault
  | none => t.reach (origin cwd p) p.segments

/-- Writes a file: its bytes are replaced, and it is created when it is new. -/
def write (t : FileTree) (cwd : Location) (p : FilePath) (bytes : ByteArray) :
    Except AccessFault FileTree :=
  match t.target cwd p with
  | .error fault => .error fault
  | .ok place =>
    match t.node? place with
    | none => .ok (t.put place (.file bytes .full))
    | some .directory => .error .isDirectory
    | some (.file _ access) =>
      if access.canWrite then .ok (t.put place (.file bytes access)) else .error .denied

end FileTree

end LintRepair.Files
