import LintRepair.CommandLine.Run
import LintRepair.Proofs.CommandLine.Operands
import LintRepair.Proofs.Repair.Agreement
import LintRepair.Proofs.Rule.DefaultRules
import LintRepair.Proofs.Settings.Broken

/-! # Runs that repair files

A run that repairs files comes to its end whatever the settings and the files are. Settings that cannot
be used cost a warning each, and settings that give no pipeline cost one more and leave the built-in
rules. Without settings, the run depends on what stands on the ways of its files and on nothing else.
-/

namespace LintRepair.CommandLine

open LintRepair.Files

variable {w w' : Workspace} {args files : List String} {dryRun noConfig : Bool} {builtin : Pipeline}

/-- The pipeline of the settings that can be used. -/
def settled (w : Workspace) : Except Fault Pipeline :=
  (Effective.ofLoaded (w.cascade w.here).loaded).pipeline

/-- The pipeline of a repair: the built-in one if settings do not count or give none. -/
def ruling (w : Workspace) (noConfig : Bool) (builtin : Pipeline) : Pipeline :=
  if noConfig then builtin
  else match settled w with
    | .ok p => p
    | .error _ => builtin

/-- The warnings about the settings files that cannot be used, in the order of the cascade. -/
def skipWarnings (w : Workspace) : List String :=
  (w.cascade w.here).faults.map fun f => "Warning: skipping config: " ++ f.report

/-- The warning about settings that give no pipeline, if they give none. -/
def ignoreWarnings (w : Workspace) : List String :=
  match settled w with
  | .ok _ => []
  | .error f => ["Warning: ignoring configuration (" ++ f.report ++ "), using built-in rules"]

/-- The warnings of a repair. -/
def warnings (w : Workspace) (noConfig : Bool) : List String :=
  if noConfig then [] else skipWarnings w ++ ignoreWarnings w

/-- Whether files are written. -/
def repairMode (dryRun : Bool) : RepairMode := if dryRun then .dryRun else .write

/-- The reports on files and the tree after their repair. -/
def repaired (w : Workspace) (p : Pipeline) (files : List String) (dryRun : Bool) :
    List Report × FileTree :=
  p.repairAll (repairMode dryRun) w.cwd w.tree (files.map FilePath.mk)

/-- What a repair prints: the lines of the reports with something to say. -/
def reportText (reports : List Report) : String :=
  lines ((reports.filter (!·.isSilent)).map Report.line)

theorem lines_append (as bs : List String) : lines (as ++ bs) = lines as ++ lines bs := by
  rw [lines, List.map_append, String.join_append]
  rfl

theorem prepare_eq (compiled : Catalog.pipeline = .ok builtin) (w : Workspace) (noConfig : Bool) :
    prepare w noConfig = ⟨.ok (ruling w noConfig builtin), warnings w noConfig⟩ := by
  cases noConfig with
  | true => simp only [prepare, ruling, warnings, compiled, if_true]
  | false =>
    simp only [prepare, ruling, warnings, settled, skipWarnings, ignoreWarnings, Bool.false_eq_true,
      if_false]
    cases (Effective.ofLoaded (w.cascade w.here).loaded).pipeline with
    | ok p => simp
    | error f => simp [compiled]

theorem withPipeline_eq (compiled : Catalog.pipeline = .ok builtin) (w : Workspace) (noConfig : Bool)
    (next : Pipeline → Result) : withPipeline w noConfig next =
      { next (ruling w noConfig builtin) with
        stderr := lines (warnings w noConfig) ++ (next (ruling w noConfig builtin)).stderr } := by
  simp only [withPipeline, prepare_eq compiled]

theorem repairFiles_eq (nonempty : files ≠ []) (w : Workspace) (p : Pipeline) (dryRun : Bool) :
    repairFiles w p files dryRun =
      ⟨0, reportText (repaired w p files dryRun).1, "", (repaired w p files dryRun).2⟩ := by
  have given : files.isEmpty = false := by simpa using nonempty
  rw [repairFiles, given]
  rfl

/-- What a run that is asked to repair files does. -/
theorem run_of_repair (compiled : Catalog.pipeline = .ok builtin)
    (asked : Request.read args = .ok (.repair files dryRun noConfig)) (nonempty : files ≠ [])
    (w : Workspace) : run w args =
      ⟨0, reportText (repaired w (ruling w noConfig builtin) files dryRun).1,
        lines (warnings w noConfig), (repaired w (ruling w noConfig builtin) files dryRun).2⟩ := by
  rw [run, asked]
  simp only [answer, withPipeline_eq compiled, repairFiles_eq nonempty, String.append_empty]

/-- Runs that repair with the same pipeline in trees that agree on the ways of the files print the same
    reports and make the same changes. -/
theorem repaired_congr (cwd : w'.cwd = w.cwd)
    (agree : w.tree.AgreeOn w'.tree w.cwd (files.map FilePath.mk)) (p : Pipeline) (dryRun : Bool) :
    (repaired w' p files dryRun).1 = (repaired w p files dryRun).1 ∧
      FileTree.SameChanges w.tree (repaired w p files dryRun).2 w'.tree
        (repaired w' p files dryRun).2 := by
  rw [repaired, repaired, cwd]
  exact ⟨(p.repairAll_congr _ agree).1, p.sameChanges_repairAll _ agree⟩

/-- What a run does that repairs files, with the built-in pipeline at hand. -/
structure RepairRun (w : Workspace) (files : List String) (dryRun noConfig : Bool)
    (builtin : Pipeline) (args : List String) : Prop where
  code : (run w args).code = 0
  stdout : (run w args).stdout =
    reportText (repaired w (ruling w noConfig builtin) files dryRun).1
  /-- There is a report on each file. -/
  inOrder : (repaired w (ruling w noConfig builtin) files dryRun).1.map (·.path) =
    files.map FilePath.mk
  stderr : (run w args).stderr = lines (warnings w noConfig)
  tree : (run w args).tree = (repaired w (ruling w noConfig builtin) files dryRun).2
  /-- Without settings there is no warning, and neither the home directory nor anything off the ways of
      the files matters, settings files among it. -/
  alone : noConfig = true → (run w args).stderr = "" ∧
    ∀ w' : Workspace, w'.cwd = w.cwd → w.tree.AgreeOn w'.tree w.cwd (files.map FilePath.mk) →
      (run w' args).code = (run w args).code ∧ (run w' args).stdout = (run w args).stdout ∧
        FileTree.SameChanges w.tree (run w args).tree w'.tree (run w' args).tree

theorem repairRun_of_read (compiled : Catalog.pipeline = .ok builtin)
    (asked : Request.read args = .ok (.repair files dryRun noConfig)) (nonempty : files ≠ [])
    (w : Workspace) : RepairRun w files dryRun noConfig builtin args := by
  have runs := run_of_repair compiled asked nonempty
  refine ⟨?_, ?_, ?_, ?_, ?_, ?_⟩
  · rw [runs]
  · rw [runs]
  · exact Pipeline.paths_repairAll _ _ _ _ _
  · rw [runs]
  · rw [runs]
  · rintro rfl
    refine ⟨by rw [runs]; rfl, fun w' cwd agree => ?_⟩
    obtain ⟨reports, changes⟩ := repaired_congr cwd agree builtin dryRun
    rw [runs, runs]
    refine ⟨rfl, ?_, ?_⟩
    · simp only [ruling, if_true, reports]
    · simpa only [ruling, if_true] using changes

/-- Files that have names can be given with any combination of options, and every run that is asked to
    repair files does so, whatever the settings and the files are. -/
theorem repair_never_fails (nonempty : files ≠ []) : ∃ builtin, Catalog.pipeline = .ok builtin ∧
    (∀ flags : List Flag, (∀ f ∈ flags, f.IsMild) → flags.Nodup → "" ∉ files →
      Request.read (flags.map Flag.word ++ "--" :: files) =
        .ok (.repair files (flags.contains .dryRun) (flags.contains .noConfig))) ∧
    ∀ (w : Workspace) args dryRun noConfig,
      Request.read args = .ok (.repair files dryRun noConfig) →
        RepairRun w files dryRun noConfig builtin args := by
  obtain ⟨builtin, compiled, -⟩ := Catalog.exists_default_pipeline
  refine ⟨builtin, compiled, fun flags mild distinct named => ?_, fun w args dryRun noConfig asked =>
    repairRun_of_read compiled asked nonempty w⟩
  rw [read_options_files mild distinct nonempty, if_neg (by simpa using named)]

theorem settled_garbled : ∃ p, settled Workspace.garbled = .ok p := by
  refine Effective.exists_pipeline ?_ ?_ ?_ <;> decide +kernel

/-- Neither a settings file that is no text nor a missing file makes a repair fail. -/
theorem repair_never_fails_garbled :
    ["a.ts"] ≠ [] ∧
      Request.read ["--dry-run", "a.ts"] = .ok (.repair ["a.ts"] true false) ∧
      (run Workspace.garbled ["--dry-run", "a.ts"]).code = 0 ∧
      (run Workspace.garbled ["--dry-run", "a.ts"]).stdout =
        "Error fixing a.ts: Failed to read file: a.ts: No such file or directory (os error 2)\n" ∧
      (run Workspace.garbled ["--dry-run", "a.ts"]).stderr =
        "Warning: skipping config: Failed to read config file: /.lintfix.toml: " ++
          "stream did not contain valid UTF-8\n" := by
  have nonempty : ["a.ts"] ≠ [] := by decide
  have asked : Request.read ["--dry-run", "a.ts"] = .ok (.repair ["a.ts"] true false) := by rfl
  obtain ⟨builtin, -, -, runs⟩ := repair_never_fails nonempty
  have does := runs Workspace.garbled _ _ _ asked
  obtain ⟨p, hp⟩ := settled_garbled
  have missing : FileTree.readText Workspace.garbled.tree Workspace.garbled.cwd ⟨"a.ts"⟩ =
      .error (.fileRead ⟨"a.ts"⟩ .notFound) := by
    decide +kernel
  have ignored : ignoreWarnings Workspace.garbled = [] := by
    rw [ignoreWarnings, hp]
  refine ⟨nonempty, asked, does.code, ?_, ?_⟩
  · rw [does.stdout, repaired, repairMode, if_pos rfl, List.map_cons, Pipeline.repairAll_cons,
      Pipeline.repair_dryRun, missing]
    rfl
  · rw [does.stderr, warnings, ignored]
    decide +kernel

/-- Of two settings files the one that can be used has a rule that changes the file. -/
theorem exists_settled_halfGarbled :
    ∃ p, settled .halfGarbled = .ok p ∧ p.apply "x;;\n" = "x;\n" := by
  have made : (settled .halfGarbled).toOption.map (·.apply "x;;\n") = some "x;\n" := by
    decide +kernel
  -- It is generalized so that no later step computes it again.
  generalize settled .halfGarbled = outcome at made ⊢
  cases outcome with
  | ok p => exact ⟨p, rfl, by simpa [Except.toOption] using made⟩
  | error f => simp [Except.toOption] at made

/-- A dry run says that it would change the file, and another run changes it. -/
theorem run_halfGarbled (asked : Request.read args = .ok (.repair ["a.ts"] dryRun false)) :
    (run .halfGarbled args).stdout = (if dryRun then "Would fix: a.ts\n" else "Fixed: a.ts\n") ∧
      (run .halfGarbled args).tree.node? ["p".toList, "a.ts".toList] =
        some (.file (if dryRun then "x;;\n" else "x;\n").toUTF8 .full) := by
  obtain ⟨builtin, compiled, -⟩ := Catalog.exists_default_pipeline
  obtain ⟨p, settled, apply⟩ := exists_settled_halfGarbled
  have read : FileTree.readText Workspace.halfGarbled.tree Workspace.halfGarbled.cwd ⟨"a.ts"⟩ =
      .ok "x;;\n" := by
    decide +kernel
  have written : FileTree.writeText Workspace.halfGarbled.tree Workspace.halfGarbled.cwd ⟨"a.ts"⟩
      "x;\n" = .ok (Workspace.halfGarbled.tree.put ["p".toList, "a.ts".toList]
        (.file "x;\n".toUTF8 .full)) := by
    rfl
  rw [run_of_repair compiled asked (by decide), ruling, if_neg (by decide), settled]
  cases dryRun <;>
    simp only [repaired, repairMode, List.map_cons, List.map_nil, Pipeline.repairAll,
      Pipeline.repair, read, apply, written] <;>
    exact ⟨rfl, rfl⟩

end LintRepair.CommandLine
