import LintRepair.Files.Ancestors
import LintRepair.Settings.Effective

/-! # The cascade of settings files

Settings files are looked for in a directory and in its parents up to the first one that says it is
the root, and last in the home directory. A file that cannot be used is reported and otherwise left
out; in particular it does not end the search.
-/

namespace LintRepair

open LintRepair.Files

/-- The surroundings of a run: the files, the current directory and the home directory. -/
structure Workspace where
  tree : FileTree
  cwd : Location
  home : Option FilePath

/-- The name of settings files. -/
def settingsFile : String := ".lintfix.toml"

/-- The settings files that could be used and the faults of those that could not, in the order in
    which they were found. -/
structure Cascade where
  loaded : List LoadedSettings
  faults : List Fault

namespace Cascade

def empty : Cascade := ⟨[], []⟩

/-- Puts a settings file in front. -/
def below (l : LoadedSettings) (c : Cascade) : Cascade := { c with loaded := l :: c.loaded }

/-- Puts a fault in front. -/
def after (f : Fault) (c : Cascade) : Cascade := { c with faults := f :: c.faults }

end Cascade

namespace Workspace

/-- Where the home directory has its settings file. -/
def homeFile? (w : Workspace) : Option FilePath := w.home.map (·.file settingsFile)

/-- What a path holds as a settings file, if it names anything. -/
def settings? (w : Workspace) (path : FilePath) : Option (Except Fault Settings) :=
  if w.tree.exists? w.cwd path then some (Settings.load w.tree w.cwd path) else none

/-- Looks for settings files in directories up to the first root. -/
def search (w : Workspace) : List FilePath → Cascade
  | [] => .empty
  | dir :: dirs =>
    let path := dir.file settingsFile
    match w.settings? path with
    | none => w.search dirs
    | some (.error f) => (w.search dirs).after f
    | some (.ok s) =>
      if s.root then .below ⟨path, s⟩ .empty else (w.search dirs).below ⟨path, s⟩

/-- Adds the settings file of the home directory unless it has been loaded already. -/
def withHome (w : Workspace) (c : Cascade) : Cascade :=
  match w.homeFile? with
  | none => c
  | some path =>
    if c.loaded.any (·.path.same path) then c
    else match w.settings? path with
      | none => c
      | some (.error f) => { c with faults := c.faults ++ [f] }
      | some (.ok s) => { c with loaded := c.loaded ++ [⟨path, s⟩] }

/-- The settings files that count in a directory. -/
def cascade (w : Workspace) (start : FilePath) : Cascade := w.withHome (w.search start.ancestors)

/-- The settings files that count in a directory, if all of them can be used. -/
def loaded (w : Workspace) (start : FilePath) : Except Fault (List LoadedSettings) :=
  let c := w.cascade start
  match c.faults with
  | [] => .ok c.loaded
  | f :: _ => .error f

/-- The settings in force in a directory. -/
def effective (w : Workspace) (start : FilePath) : Except Fault Effective :=
  (w.loaded start).map Effective.ofLoaded

/-- The path of the settings file of the home directory. -/
def homeFile (w : Workspace) : Except Fault FilePath :=
  match w.homeFile? with
  | some path => .ok path
  | none => .error .noHome

/-- The current directory as a path. -/
def here (w : Workspace) : FilePath := ⟨String.ofList ('/' :: joinSlash w.cwd)⟩

end Workspace

end LintRepair
