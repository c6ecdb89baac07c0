import LintRepair.Rule.Basic

/-! # Repairing files

A pipeline is run over the text of a file, and the file is written again when its text has changed.
Files are repaired one after the other, each in the tree that the one before it left. The fault of a
file is its own outcome and stops nothing.
-/

namespace LintRepair

open LintRepair.Files LintRepair.Text

/-- Whether files that change are written or only reported. -/
inductive RepairMode where
  | write
  | dryRun
  deriving DecidableEq, Repr

/-- What became of a file. -/
inductive Outcome where
  | unchanged
  | fixed
  | wouldFix
  deriving DecidableEq, Repr

/-- What became of the file that a path names. -/
structure Report where
  path : FilePath
  result : Except Fault Outcome

namespace Report

/-- Whether the file could not be repaired. -/
def isFault (r : Report) : Bool :=
  match r.result with
  | .ok _ => false
  | .error _ => true

/-- The line for a file. A file that did not change has none. -/
def line (r : Report) : String :=
  match r.result with
  | .ok .unchanged => ""
  | .ok .fixed => "Fixed: " ++ r.path.text
  | .ok .wouldFix => "Would fix: " ++ r.path.text
  | .error f => "Error fixing " ++ r.path.text ++ ": " ++ f.report

/-- Whether there is anything to say about a file. -/
def isSilent (r : Report) : Bool :=
  match r.result with
  | .ok .unchanged => true
  | _ => false

end Report

namespace Files.FileTree

/-- The text of a file. -/
def readText (t : FileTree) (cwd : Location) (path : FilePath) : Except Fault String :=
  match t.read cwd path with
  | .error cause => .error (.fileRead path cause)
  | .ok bytes =>
    match Utf8.decode bytes with
    | .error cause => .error (.fileDecode path cause)
    | .ok text => .ok text

/-- Writes a text to a file. -/
def writeText (t : FileTree) (cwd : Location) (path : FilePath) (text : String) :
    Except Fault FileTree :=
  match t.write cwd path text.toUTF8 with
  | .error cause => .error (.fileWrite path cause)
  | .ok t => .ok t

end Files.FileTree

namespace Pipeline

/-- Repairs a file: what became of it, and the tree afterwards. -/
def repair (p : Pipeline) (mode : RepairMode) (cwd : Location) (t : FileTree) (path : FilePath) :
    Except Fault Outcome × FileTree :=
  match t.readText cwd path with
  | .error f => (.error f, t)
  | .ok text =>
    let repaired := p.apply text
    if repaired = text then (.ok .unchanged, t)
    else match mode with
      | .dryRun => (.ok .wouldFix, t)
      | .write =>
        match t.writeText cwd path repaired with
        | .error f => (.error f, t)
        | .ok t => (.ok .fixed, t)

/-- Repairs files in order: a report for each, and the tree afterwards. -/
def repairAll (p : Pipeline) (mode : RepairMode) (cwd : Location) :
    FileTree → List FilePath → List Report × FileTree
  | t, [] => ([], t)
  | t, path :: paths =>
    let (result, t) := p.repair mode cwd t path
    let (reports, t) := repairAll p mode cwd t paths
    (⟨path, result⟩ :: reports, t)

end Pipeline

end LintRepair
