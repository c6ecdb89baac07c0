import LintRepair.Proofs.Repair.Agreement
import Mathlib.Data.List.Forall2

/-! # Dry runs

A dry run changes nothing and tells what a run that writes will do. Each repair keeps what a dry run says
about the files that it does not name, so this holds of all reports as long as no file is named twice.
-/

namespace LintRepair

open LintRepair.Files LintRepair.Text

namespace Files.FileTree

variable {t t' : FileTree} {cwd place : Location} {path other : FilePath} {paths : List FilePath}
  {text : String} {f : Fault}

/-- Whether a regular file stands at a place. -/
def isFile (t : FileTree) (place : Location) : Bool :=
  match t.node? place with
  | some (.file _ _) => true
  | _ => false

/-- Whether two paths name the same regular file, however they are spelled. -/
def sameFile (t : FileTree) (cwd : Location) (path other : FilePath) : Bool :=
  match t.resolve cwd path with
  | .ok place => t.isFile place && t.names cwd place other
  | .error _ => false

/-- Whether no file is named twice. Paths that name no file may be repeated. -/
def DistinctFiles (t : FileTree) (cwd : Location) (paths : List FilePath) : Prop :=
  paths.Pairwise fun path other => t.sameFile cwd path other = false

instance : Decidable (t.DistinctFiles cwd paths) :=
  inferInstanceAs (Decidable (paths.Pairwise fun path other => t.sameFile cwd path other = false))

theorem isFile_eq (t : FileTree) (place : Location) :
    t.isFile place = ((kindIn t.outline place).join).isSome := by
  rw [isFile, ← kind_node?]
  cases t.node? place with
  | none => rfl
  | some node => cases node <;> rfl

theorem sameFile_eq_of_outline (h : t.outline = t'.outline) :
    t.sameFile cwd path other = t'.sameFile cwd path other := by
  simp only [sameFile, isFile_eq, names, resolve_eq_of_outline h, h]

theorem distinctFiles_of_outline (h : t.outline = t'.outline) (distinct : t.DistinctFiles cwd paths) :
    t'.DistinctFiles cwd paths := by
  refine distinct.imp fun {path other} apart => ?_
  rwa [← sameFile_eq_of_outline h]

theorem readText_fault (h : t.readText cwd path = .error f) :
    (∃ cause, f = .fileRead path cause) ∨ ∃ cause, f = .fileDecode path cause := by
  rw [readText] at h
  cases read : t.read cwd path with
  | error cause =>
    rw [read] at h
    cases h
    exact .inl ⟨cause, rfl⟩
  | ok bytes =>
    rw [read] at h
    cases decoded : Utf8.decode bytes with
    | error cause =>
      simp only [decoded] at h
      cases h
      exact .inr ⟨cause, rfl⟩
    | ok text =>
      simp only [decoded] at h
      cases h

theorem writeText_fault (h : t.writeText cwd path text = .error f) :
    ∃ cause, f = .fileWrite path cause := by
  rw [writeText] at h
  cases written : t.write cwd path text.toUTF8 with
  | error cause =>
    rw [written] at h
    cases h
    exact ⟨cause, rfl⟩
  | ok t =>
    rw [written] at h
    cases h

end Files.FileTree

/-- Whether the report of a dry run tells that of a run that writes: that a file would be fixed if the run
    fixes it or fails to write it, and otherwise just what the run reports. -/
structure Report.Predicts (dry written : Report) : Prop where
  path : dry.path = written.path
  wouldFix : dry.result = .ok .wouldFix ↔ written.result = .ok .fixed ∨
    ∃ cause, written.result = .error (.fileWrite written.path cause)
  otherwise : dry.result ≠ .ok .wouldFix → dry.result = written.result ∧
    (written.result = .ok .unchanged ∨
      (∃ cause, written.result = .error (.fileRead written.path cause)) ∨
      ∃ cause, written.result = .error (.fileDecode written.path cause))

namespace Pipeline

variable {t : FileTree} {cwd : Location} {path other : FilePath} {paths : List FilePath}

/-- A dry run predicts one repair of the same tree. -/
theorem repair_predicts (p : Pipeline) (cwd : Location) (t : FileTree) (path : FilePath) :
    Report.Predicts ⟨path, (p.repair .dryRun cwd t path).1⟩ ⟨path, (p.repair .write cwd t path).1⟩ := by
  rw [repair, repair]
  cases read : t.readText cwd path with
  | error f =>
    cases FileTree.readText_fault read with
    | inl h =>
      obtain ⟨cause, rfl⟩ := h
      exact ⟨rfl, by simp, fun _ => ⟨rfl, .inr (.inl ⟨cause, rfl⟩)⟩⟩
    | inr h =>
      obtain ⟨cause, rfl⟩ := h
      exact ⟨rfl, by simp, fun _ => ⟨rfl, .inr (.inr ⟨cause, rfl⟩)⟩⟩
  | ok text =>
    by_cases same : p.apply text = text
    · simp only [same, if_true]
      exact ⟨rfl, by simp, fun _ => ⟨rfl, .inl rfl⟩⟩
    · simp only [same, if_false]
      cases written : t.writeText cwd path (p.apply text) with
      | error f =>
        obtain ⟨cause, rfl⟩ := FileTree.writeText_fault written
        exact ⟨rfl, by simp, fun h => absurd rfl h⟩
      | ok t' => exact ⟨rfl, by simp, fun h => absurd rfl h⟩

/-- One repair leaves what is read from other files as it is. -/
theorem read_repair_of_apart (p : Pipeline) (apart : t.sameFile cwd path other = false) :
    (p.repair .write cwd t path).2.read cwd other = t.read cwd other := by
  have outline := outline_repair p cwd t path
  rw [FileTree.read, FileTree.read, FileTree.resolve_eq_of_outline outline]
  cases resolved : t.resolve cwd other with
  | error cause => rfl
  | ok place =>
    have node : (p.repair .write cwd t path).2.node? place = t.node? place := by
      rw [node?_repair]
      cases named : t.names cwd place path with
      | false => rfl
      | true =>
        -- Both paths name the place, so no file stands there and there is nothing to repair.
        have noFile : t.isFile place = false := by
          rw [FileTree.sameFile, FileTree.names_iff.mp named] at apart
          simpa [FileTree.names_iff.mpr resolved] using apart
        rw [if_pos rfl]
        cases node : t.node? place with
        | none => rfl
        | some n =>
          cases n with
          | directory => rfl
          | file bytes access => simp [FileTree.isFile, node] at noFile
    simp only [node]

theorem repair_dryRun_of_apart (p : Pipeline) (apart : t.sameFile cwd path other = false) :
    (p.repair .dryRun cwd (p.repair .write cwd t path).2 other).1 =
      (p.repair .dryRun cwd t other).1 := by
  rw [repair_dryRun, repair_dryRun, FileTree.readText, FileTree.readText, p.read_repair_of_apart apart]

/-- A dry run looks at every file in the same tree. -/
theorem repairAll_dryRun (p : Pipeline) (cwd : Location) (t : FileTree) (paths : List FilePath) :
    p.repairAll .dryRun cwd t paths =
      (paths.map fun path => ⟨path, (p.repair .dryRun cwd t path).1⟩, t) := by
  induction paths with
  | nil => rfl
  | cons path paths ih =>
    have kept : (p.repair .dryRun cwd t path).2 = t := by rw [repair_dryRun]
    rw [repairAll_cons, kept, ih]
    rfl

theorem reports_predict (p : Pipeline) (distinct : t.DistinctFiles cwd paths) :
    List.Forall₂ Report.Predicts (p.repairAll .dryRun cwd t paths).1
      (p.repairAll .write cwd t paths).1 := by
  -- The trees of the two runs part after the first file, and only its reports could tell them apart.
  rw [repairAll_dryRun]
  induction paths generalizing t with
  | nil => exact .nil
  | cons path paths ih =>
    obtain ⟨apart, rest⟩ := List.pairwise_cons.mp distinct
    have outline := outline_repair p cwd t path
    have later := ih (FileTree.distinctFiles_of_outline outline.symm rest)
    have same : (paths.map fun other =>
          (⟨other, (p.repair .dryRun cwd (p.repair .write cwd t path).2 other).1⟩ : Report)) =
        paths.map fun other => ⟨other, (p.repair .dryRun cwd t other).1⟩ :=
      List.map_congr_left fun other h => by rw [p.repair_dryRun_of_apart (apart other h)]
    rw [same] at later
    rw [repairAll_cons, List.map_cons]
    exact .cons (p.repair_predicts cwd t path) later

/-- A dry run changes nothing, and its reports, one for each path in their order, predict those of a run
    that writes, unless a file is named twice. -/
theorem dryRun_predicts_write (p : Pipeline) (distinct : t.DistinctFiles cwd paths) :
    (p.repairAll .dryRun cwd t paths).2 = t ∧
      (p.repairAll .dryRun cwd t paths).1.map (·.path) = paths ∧
      List.Forall₂ Report.Predicts (p.repairAll .dryRun cwd t paths).1
        (p.repairAll .write cwd t paths).1 := by
  refine ⟨?_, p.paths_repairAll cwd t .dryRun paths, p.reports_predict distinct⟩
  rw [repairAll_dryRun]

/-- A pipeline that doubles every letter a. -/
def doubling : Pipeline := (Rule.compileAll [⟨"double", "a", "aa"⟩]).toOption.getD []

/-- A file to change, one that would change but cannot be written, and one that is no text. -/
def mixedTree : FileTree :=
  ⟨[([['a']], .file "a".toUTF8 .full), ([['b']], .file "a".toUTF8 .readOnly),
    ([['c']], .file ⟨#[0xff]⟩ .full)]⟩

/-- The paths of the files in another order, with a path between them that names nothing and comes
    twice. -/
def mixedPaths : List FilePath := [⟨"c"⟩, ⟨"gone"⟩, ⟨"./a"⟩, ⟨"gone"⟩, ⟨"b"⟩]

/-- A file that would be fixed may turn out fixed or not to be writable. -/
theorem dryRun_predicts_write_mixed :
    mixedTree.DistinctFiles [] mixedPaths ∧
      (doubling.repairAll .dryRun [] mixedTree mixedPaths).1.map (·.result) =
        [.error (.fileDecode ⟨"c"⟩ (.invalid 1 0)), .error (.fileRead ⟨"gone"⟩ .notFound),
          .ok .wouldFix, .error (.fileRead ⟨"gone"⟩ .notFound), .ok .wouldFix] ∧
      (doubling.repairAll .write [] mixedTree mixedPaths).1.map (·.result) =
        [.error (.fileDecode ⟨"c"⟩ (.invalid 1 0)), .error (.fileRead ⟨"gone"⟩ .notFound),
          .ok .fixed, .error (.fileRead ⟨"gone"⟩ .notFound),
          .error (.fileWrite ⟨"b"⟩ .denied)] ∧
      List.Forall₂ Report.Predicts (doubling.repairAll .dryRun [] mixedTree mixedPaths).1
        (doubling.repairAll .write [] mixedTree mixedPaths).1 := by
  have distinct : mixedTree.DistinctFiles [] mixedPaths := by decide +kernel
  refine ⟨distinct, ?_, ?_, (dryRun_predicts_write doubling distinct).2.2⟩ <;> decide +kernel

end Pipeline

end LintRepair
