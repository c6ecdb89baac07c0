import LintRepair.Proofs.Files.Removal
import LintRepair.Proofs.Settings.Discovery

/-! # Settings files that cannot be used

Whether a settings file can be used is decided by what stands at its place. When all those are removed
that are looked at and cannot be used, the search finds the same settings and no fault.
-/

namespace LintRepair

open LintRepair.Files LintRepair.Text

namespace Settings

variable {t : FileTree} {cwd place : Location} {path path' : FilePath} {node : Option Node}

/-- What a path says about settings when it names a place with a node. -/
def ofNode (path : FilePath) : Option Node → Except Fault Settings
  | none => .error (.settingsRead path .notFound)
  | some .directory => .error (.settingsRead path .isDirectory)
  | some (.file bytes access) =>
    if access.canRead then
      match Utf8.decode bytes with
      | .error _ => .error (.settingsRead path .notText)
      | .ok text => parse text path
    else .error (.settingsRead path .denied)

theorem load_of_resolve (h : t.resolve cwd path = .ok place) :
    load t cwd path = ofNode path (t.node? place) := by
  cases node : t.node? place with
  | none => simp only [load, FileTree.read, h, node, ofNode]
  | some n =>
    cases n with
    | directory => simp only [load, FileTree.read, h, node, ofNode]
    | file bytes access =>
      cases readable : access.canRead with
      | true =>
        cases decoded : Utf8.decode bytes <;>
          simp only [load, FileTree.read, h, node, ofNode, readable, if_true, decoded]
      | false =>
        simp only [load, FileTree.read, h, node, ofNode, readable, Bool.false_eq_true, if_false]

theorem parse_path {text : String} {s : Settings} (h : parse text path = .ok s) :
    parse text path' = .ok s := by
  rw [parse] at h ⊢
  cases described : (Toml.Document.read? text.toList).bind ofEntries? with
  | none =>
    rw [described] at h
    cases h
  | some found => rwa [described] at h

/-- Which settings are found at a place does not depend on the path to it. -/
theorem ofNode_path {s : Settings} (h : ofNode path node = .ok s) : ofNode path' node = .ok s := by
  cases node with
  | none => cases h
  | some n =>
    cases n with
    | directory => cases h
    | file bytes access =>
      rw [ofNode] at h ⊢
      cases readable : access.canRead with
      | false =>
        rw [readable] at h
        cases h
      | true =>
        rw [readable, if_pos rfl] at h
        rw [if_pos rfl]
        cases decoded : Utf8.decode bytes with
        | error cause =>
          rw [decoded] at h
          cases h
        | ok text =>
          rw [decoded] at h
          exact parse_path h

end Settings

namespace Workspace

variable {w : Workspace} {start path : FilePath} {place : Location}

/-- What a path holds as a settings file is decided by what stands at the place that it names. -/
theorem settings?_eq (w : Workspace) (path : FilePath) : w.settings? path =
    (w.tree.resolve w.cwd path).toOption.map fun place =>
      Settings.ofNode path (w.tree.node? place) := by
  rw [settings?, FileTree.exists?]
  cases resolved : w.tree.resolve w.cwd path with
  | error cause => rfl
  | ok place =>
    rw [Settings.load_of_resolve resolved]
    rfl

def isUsable (w : Workspace) (path : FilePath) : Bool := (w.usableAt? path).isSome

def isBroken (w : Workspace) (path : FilePath) : Bool := (w.faultAt? path).isSome

/-- The settings files of the directories that are looked into. -/
def walked (w : Workspace) (start : FilePath) : List FilePath :=
  (w.visited start.ancestors).map (·.file settingsFile)

/-- The settings files that the search looks for: those of the directories that it looks into and that
    of the home directory. -/
def lookedFor (w : Workspace) (start : FilePath) : List FilePath :=
  w.walked start ++ w.homeFile?.toList

/-- The places of the settings files that are looked for and there but cannot be used. -/
def brokenPlaces (w : Workspace) (start : FilePath) : List Location :=
  ((w.lookedFor start).filter w.isBroken).filterMap fun path =>
    (w.tree.resolve w.cwd path).toOption

/-- The surroundings without the settings files that cannot be used. -/
def withoutBroken (w : Workspace) (start : FilePath) : Workspace :=
  { w with tree := w.tree.without (w.brokenPlaces start) }

/-- Whether the current directory is there. -/
def Standing (w : Workspace) : Prop := ∀ place, place <+: w.cwd → w.tree.isDirectory place = true

/-- Whether the settings files that cannot be used are regular files. -/
def BrokenFiles (w : Workspace) (start : FilePath) : Prop :=
  ∀ place ∈ w.brokenPlaces start, ∃ bytes access, w.tree.node? place = some (.file bytes access)

/-- A root directory with nothing in it but a settings file that is no text. -/
def garbled : Workspace :=
  ⟨⟨[([settingsFile.toList], .file ⟨#[0xff]⟩ .full)]⟩, [], none⟩

/-- A directory with a file and a settings file that is no text. The settings above put a rule of their
    own in the place of all built-in rules. -/
def halfGarbled : Workspace where
  tree :=
    ⟨[([settingsFile.toList], .file
        ("disabled-rules = ['nullish-name', 'nullish-value', 'nullable-check', " ++
          "'empty-object-condition', 'console-log-to-warn', 'unused-prefix']\n" ++
          "[[rules]]\nid = 'once'\npattern = ';;'\nreplacement = ';'\n").toUTF8 .full),
      (["p".toList, settingsFile.toList], .file ⟨#[0xff]⟩ .full),
      (["p".toList, "a.ts".toList], .file "x;;\n".toUTF8 .full)]⟩
  cwd := ["p".toList]
  home := none

theorem mem_brokenPlaces_iff : place ∈ w.brokenPlaces start ↔
    ∃ path ∈ w.lookedFor start, w.tree.resolve w.cwd path = .ok place ∧
      ∃ f, Settings.ofNode path (w.tree.node? place) = .error f := by
  rw [brokenPlaces, List.mem_filterMap]
  constructor
  · rintro ⟨path, hpath, resolved⟩
    obtain ⟨looked, broken⟩ := List.mem_filter.mp hpath
    rw [isBroken, faultAt?, settings?_eq] at broken
    cases found : w.tree.resolve w.cwd path with
    | error cause =>
      rw [found] at resolved
      cases resolved
    | ok there =>
      rw [found] at resolved broken
      cases resolved
      refine ⟨path, looked, found, ?_⟩
      cases held : Settings.ofNode path (w.tree.node? place) with
      | error f => exact ⟨f, rfl⟩
      | ok s => simp [Except.toOption, held] at broken
  · rintro ⟨path, looked, resolved, f, held⟩
    refine ⟨path, List.mem_filter.mpr ⟨looked, ?_⟩, by rw [resolved]; rfl⟩
    rw [isBroken, faultAt?, settings?_eq, resolved]
    simp [Except.toOption, held]

section Removal

variable (standing : w.Standing) (files : w.BrokenFiles start)
include standing files

theorem hasFiles_broken : w.tree.HasFiles (w.brokenPlaces start) := by
  intro place hplace
  obtain ⟨bytes, access, node⟩ := files place hplace
  refine ⟨?_, bytes, access, node⟩
  rintro rfl
  have root := standing [] List.nil_prefix
  rw [FileTree.isDirectory, node] at root
  cases root

/-- Paths do not start under a file. -/
theorem origin_above (path : FilePath) :
    isUnder (w.brokenPlaces start) (FileTree.origin w.cwd path) = false := by
  refine Bool.eq_false_iff.mpr fun under => ?_
  obtain ⟨place, hplace, down⟩ := isUnder_iff.mp under
  have above : place <+: w.cwd := by
    rw [FileTree.origin] at down
    split at down
    · exact down.trans List.nil_prefix
    · exact down
  have directory := standing place above
  rw [(hasFiles_broken standing files).not_directory hplace] at directory
  cases directory

theorem toOption_resolve_withoutBroken (path : FilePath) :
    ((w.withoutBroken start).tree.resolve w.cwd path).toOption =
      (w.tree.resolve w.cwd path).toOption.filter (!isUnder (w.brokenPlaces start) ·) := by
  rw [FileTree.resolve, FileTree.resolve]
  cases FileTree.pathFault? path with
  | some fault => rfl
  | none =>
    exact FileTree.toOption_walk_without (hasFiles_broken standing files)
      (origin_above standing files path)

/-- Where a path leads under removed files, it leads to one of them. -/
theorem mem_of_resolve_under (resolved : w.tree.resolve w.cwd path = .ok place)
    (under : isUnder (w.brokenPlaces start) place = true) : place ∈ w.brokenPlaces start :=
  FileTree.mem_of_walk_under (hasFiles_broken standing files) (origin_above standing files path)
    (FileTree.walk_of_resolve resolved) under

/-- Of the settings files that are looked for, those stay that can be used. -/
theorem settings?_withoutBroken (looked : path ∈ w.lookedFor start) :
    (w.withoutBroken start).settings? path =
      (w.usableAt? path).map fun l => .ok l.settings := by
  have resolves := toOption_resolve_withoutBroken standing files path
  rw [usableAt?, settings?_eq, settings?_eq]
  change Option.map _ ((w.withoutBroken start).tree.resolve w.cwd path).toOption = _
  rw [resolves]
  cases resolved : w.tree.resolve w.cwd path with
  | error cause => rfl
  | ok place =>
    cases under : isUnder (w.brokenPlaces start) place with
    | true =>
      have broken := mem_of_resolve_under standing files resolved under
      obtain ⟨path', -, -, f, held⟩ := mem_brokenPlaces_iff.mp broken
      cases here : Settings.ofNode path (w.tree.node? place) with
      | ok s =>
        rw [Settings.ofNode_path here] at held
        cases held
      | error f => simp [Except.toOption, Option.filter, under, here]
    | false =>
      have node : (w.withoutBroken start).tree.node? place = w.tree.node? place :=
        FileTree.node?_without_of_above (hasFiles_broken standing files) under
      cases here : Settings.ofNode path (w.tree.node? place) with
      | ok s => simp [Except.toOption, Option.filter, under, here, node]
      | error f =>
        have broken : place ∈ w.brokenPlaces start :=
          mem_brokenPlaces_iff.mpr ⟨path, looked, resolved, f, here⟩
        rw [isUnder_of_mem broken] at under
        cases under

theorem usableAt?_withoutBroken (looked : path ∈ w.lookedFor start) :
    (w.withoutBroken start).usableAt? path = w.usableAt? path := by
  have kept := settings?_withoutBroken standing files looked
  rw [usableAt?, kept, usableAt?]
  cases w.settings? path with
  | none => rfl
  | some result => cases result <;> rfl

theorem faultAt?_withoutBroken (looked : path ∈ w.lookedFor start) :
    (w.withoutBroken start).faultAt? path = none := by
  rw [faultAt?, settings?_withoutBroken standing files looked]
  cases w.usableAt? path <;> rfl

theorem visited_withoutBroken :
    (w.withoutBroken start).visited start.ancestors = w.visited start.ancestors := by
  refine visited_eq_of_isRoot fun dir hdir => ?_
  have looked : dir.file settingsFile ∈ w.lookedFor start :=
    List.mem_append_left _ (List.mem_map_of_mem hdir)
  rw [isRoot, settings?_withoutBroken standing files looked, isRoot, usableAt?]
  cases w.settings? (dir.file settingsFile) with
  | none => rfl
  | some result => cases result <;> rfl

/-- Without the settings files that cannot be used, the search finds the same settings and no fault. -/
theorem cascade_withoutBroken : (w.withoutBroken start).cascade start =
    ⟨(w.cascade start).loaded, []⟩ := by
  have inChain : ∀ dir ∈ w.visited start.ancestors, dir.file settingsFile ∈ w.lookedFor start :=
    fun dir hdir => List.mem_append_left _ (List.mem_map_of_mem hdir)
  have usable : (w.visited start.ancestors).filterMap
        (fun dir => (w.withoutBroken start).usableAt? (dir.file settingsFile)) =
      (w.visited start.ancestors).filterMap fun dir => w.usableAt? (dir.file settingsFile) :=
    List.filterMap_congr fun dir hdir => usableAt?_withoutBroken standing files (inChain dir hdir)
  have sound : (w.visited start.ancestors).filterMap
      (fun dir => (w.withoutBroken start).faultAt? (dir.file settingsFile)) = [] :=
    List.filterMap_eq_nil_iff.mpr fun dir hdir =>
      faultAt?_withoutBroken standing files (inChain dir hdir)
  have homeFile : (w.withoutBroken start).homeFile? = w.homeFile? := rfl
  rw [cascade, cascade, search_eq, search_eq, visited_withoutBroken standing files, usable, sound,
    withHome_eq, withHome_eq, homeLoaded, homeLoaded, homeFaults, homeFile]
  cases home : w.homeFile? with
  | none => rfl
  | some path =>
    have atHome : path ∈ w.lookedFor start := List.mem_append_right _ (by simp [home])
    simp only [usableAt?_withoutBroken standing files atHome,
      faultAt?_withoutBroken standing files atHome, Option.toList_none, ite_self, List.append_nil]

end Removal

end Workspace

end LintRepair
