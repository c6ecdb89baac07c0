import LintRepair.CommandLine.Run

/-! # The program

Takes the files that a run may look at from the disk, runs, prints, and writes the files that changed.
-/

namespace LintRepair.CommandLine

open LintRepair.Files

/-- The spelling of a place on the disk. -/
def diskName (place : Location) : String := String.ofList ('/' :: joinSlash place)

/-- Whether a file of the disk may be written. -/
def isWritable (name : String) : IO Bool :=
  try
    let _ ← IO.FS.Handle.mk name .readWrite
    return true
  catch _ => return false

/-- A file of the disk. -/
def diskFile (name : String) : IO Node :=
  try
    let bytes ← IO.FS.readBinFile name
    return .file bytes (if ← isWritable name then .full else .readOnly)
  catch _ => return .file .empty .writeOnly

/-- What stands at a place of the disk. -/
def diskNode? (place : Location) : IO (Option Node) :=
  try
    let name := diskName place
    if ← (← IO.FS.realPath name).isDir then return some .directory
    return some (← diskFile name)
  catch _ => return none

/-- Adds what stands on the way of segments from a place on. -/
def addWay (t : FileTree) (place : Location) : List (List Char) → IO FileTree
  | [] => return t
  | segment :: segments => do
    if isSilent segment then addWay t place segments
    else if segment = ['.', '.'] then addWay t place.dropLast segments
    else
      let place := place ++ [segment]
      match ← diskNode? place with
      | none => return t
      | some node => addWay (t.put place node) place segments

/-- Adds what a path names and what lies on its way. -/
def addPath (cwd : Location) (t : FileTree) (p : FilePath) : IO FileTree :=
  addWay t (FileTree.origin cwd p) p.segments

/-- Writes a file unless it holds its bytes already. -/
def save (before : FileTree) (entry : Location × Node) : IO Unit :=
  match entry.2 with
  | .directory => return
  | .file bytes _ =>
    match before.node? entry.1 with
    | some (.file old _) =>
      if bytes == old then return else IO.FS.writeBinFile (diskName entry.1) bytes
    | _ => IO.FS.writeBinFile (diskName entry.1) bytes

/-- The home directory of the user of a number in a password file. -/
def passwordHome (user : String) (passwords : String) : Option String :=
  (passwords.splitOn "\n").findSome? fun entry =>
    match entry.splitOn ":" with
    | [_, _, number, _, _, home, _] => if number = user && !home.isEmpty then some home else none
    | _ => none

/-- The number of the user in the status of a process. -/
def statusUser (status : String) : Option String :=
  (status.splitOn "\n").findSome? fun field =>
    match field.splitOn "\t" with
    | "Uid:" :: user :: _ => some user
    | _ => none

/-- The home directory: that of the environment, or that of the password file if this one is empty. -/
def homeDirectory : IO (Option FilePath) := do
  match ← IO.getEnv "HOME" with
  | some home =>
    if !home.isEmpty then return some ⟨home⟩
  | none => pure ()
  try
    let user := statusUser (← IO.FS.readFile "/proc/self/status")
    let passwords ← IO.FS.readFile "/etc/passwd"
    return (user.bind fun user => passwordHome user passwords).map FilePath.mk
  catch _ => return none

end LintRepair.CommandLine

open LintRepair LintRepair.Files LintRepair.CommandLine

def main (args : List String) : IO UInt32 := do
  let here : FilePath := ⟨(← IO.currentDir).toString⟩
  let cwd := here.segments.filter (!isSilent ·)
  let home ← homeDirectory
  let tree ← addPath [] .empty here
  let w : Workspace := ⟨tree, cwd, home⟩
  let tree ← (consulted w args).foldlM (addPath cwd) tree
  let r := run { w with tree := tree } args
  r.tree.entries.forM (save tree)
  IO.print r.stdout
  IO.eprint r.stderr
  return UInt32.ofNat r.code
