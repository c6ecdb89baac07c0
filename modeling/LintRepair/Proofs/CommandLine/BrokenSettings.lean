import LintRepair.Proofs.CommandLine.RepairRun
import LintRepair.Proofs.Settings.Broken

/-! # Settings files that cannot be used count as absent

A repair with settings files that cannot be used does what it would do without these files. The only
difference are the warnings about them, which come first.
-/

namespace LintRepair.CommandLine

open LintRepair.Files

variable {w : Workspace} {args files : List String} {dryRun : Bool}

/-- Files whose ways lead to none of the settings files that cannot be used are found as before. -/
theorem agreeOn_withoutBroken (standing : w.Standing) (regular : w.BrokenFiles w.here)
    (apart : ∀ file ∈ files, ∀ place ∈ w.brokenPlaces w.here, place ∉ w.tree.way w.cwd ⟨file⟩) :
    w.tree.AgreeOn (w.withoutBroken w.here).tree w.cwd (files.map FilePath.mk) := by
  intro path hpath place hplace
  obtain ⟨file, hfile, rfl⟩ := List.mem_map.mp hpath
  refine FileTree.node?_without_of_above (Workspace.hasFiles_broken standing regular) ?_
  exact FileTree.above_of_mem_wayFrom (Workspace.origin_above standing regular ⟨file⟩)
    (apart file hfile) hplace

/-- A repair does the same when the settings files are removed that it looks at and cannot use. Only its
    warnings about them are gone. -/
theorem broken_settings_count_as_absent
    (asked : Request.read args = .ok (.repair files dryRun false)) (nonempty : files ≠ [])
    (standing : w.Standing) (regular : w.BrokenFiles w.here)
    (apart : ∀ file ∈ files, ∀ place ∈ w.brokenPlaces w.here, place ∉ w.tree.way w.cwd ⟨file⟩) :
    (∀ place, (w.withoutBroken w.here).tree.node? place =
        if isUnder (w.brokenPlaces w.here) place then none else w.tree.node? place) ∧
      (run (w.withoutBroken w.here) args).code = (run w args).code ∧
      (run (w.withoutBroken w.here) args).stdout = (run w args).stdout ∧
      (run w args).stderr = lines (skipWarnings w) ++ (run (w.withoutBroken w.here) args).stderr ∧
      FileTree.SameChanges w.tree (run w args).tree (w.withoutBroken w.here).tree
        (run (w.withoutBroken w.here) args).tree := by
  obtain ⟨builtin, compiled, -⟩ := Catalog.exists_default_pipeline
  have cascade : (w.withoutBroken w.here).cascade (w.withoutBroken w.here).here =
      ⟨(w.cascade w.here).loaded, []⟩ := Workspace.cascade_withoutBroken standing regular
  have settings : settled (w.withoutBroken w.here) = settled w := by
    rw [settled, cascade, settled]
  have skipped : skipWarnings (w.withoutBroken w.here) = [] := by
    rw [skipWarnings, cascade]
    rfl
  have ignored : ignoreWarnings (w.withoutBroken w.here) = ignoreWarnings w := by
    rw [ignoreWarnings, ignoreWarnings, settings]
  have pipeline : ruling (w.withoutBroken w.here) false builtin = ruling w false builtin := by
    rw [ruling, ruling, settings]
  have cwd : (w.withoutBroken w.here).cwd = w.cwd := rfl
  obtain ⟨reports, changes⟩ := repaired_congr cwd (agreeOn_withoutBroken standing regular apart)
    (ruling w false builtin) dryRun
  have runs := run_of_repair compiled asked nonempty
  refine ⟨FileTree.node?_without (Workspace.hasFiles_broken standing regular), ?_, ?_, ?_, ?_⟩
  · rw [runs, runs]
  · rw [runs, runs, pipeline, reports]
  · rw [runs, runs]
    simp only [warnings, skipped, ignored, Bool.false_eq_true, if_false, List.nil_append,
      lines_append]
  · rw [runs, runs, pipeline]
    exact changes

/-- Beside settings that are no text those above count, and the file is changed by their rule in both
    runs. -/
theorem broken_settings_count_as_absent_halfGarbled :
    Request.read ["a.ts"] = .ok (.repair ["a.ts"] false false) ∧
      Workspace.halfGarbled.brokenPlaces Workspace.halfGarbled.here =
        [["p".toList, settingsFile.toList]] ∧
      (run .halfGarbled ["a.ts"]).stdout = "Fixed: a.ts\n" ∧
      (run .halfGarbled ["a.ts"]).tree.node? ["p".toList, "a.ts".toList] =
        some (.file "x;\n".toUTF8 .full) ∧
      (run .halfGarbled ["a.ts"]).stderr =
        "Warning: skipping config: Failed to read config file: /p/.lintfix.toml: " ++
          "stream did not contain valid UTF-8\n" ++
          (run (Workspace.halfGarbled.withoutBroken Workspace.halfGarbled.here) ["a.ts"]).stderr ∧
      (run (Workspace.halfGarbled.withoutBroken Workspace.halfGarbled.here) ["a.ts"]).stdout =
        "Fixed: a.ts\n" ∧
      (run (Workspace.halfGarbled.withoutBroken Workspace.halfGarbled.here) ["a.ts"]).tree.node?
        ["p".toList, "a.ts".toList] = some (.file "x;\n".toUTF8 .full) := by
  have asked : Request.read ["a.ts"] = .ok (.repair ["a.ts"] false false) := by rfl
  have broken : Workspace.halfGarbled.brokenPlaces Workspace.halfGarbled.here =
      [["p".toList, settingsFile.toList]] := by
    decide +kernel
  have standing : Workspace.halfGarbled.Standing := by
    have directories : ∀ place ∈ Workspace.halfGarbled.cwd.inits,
        Workspace.halfGarbled.tree.isDirectory place = true := by
      decide +kernel
    exact fun place above => directories place ((List.mem_inits _ _).mpr above)
  have regular : Workspace.halfGarbled.BrokenFiles Workspace.halfGarbled.here := by
    intro place hplace
    rw [broken] at hplace
    rw [List.mem_singleton.mp hplace]
    exact ⟨⟨#[0xff]⟩, .full, rfl⟩
  have apart : ∀ file ∈ ["a.ts"],
      ∀ place ∈ Workspace.halfGarbled.brokenPlaces Workspace.halfGarbled.here,
        place ∉ Workspace.halfGarbled.tree.way Workspace.halfGarbled.cwd ⟨file⟩ := by
    rw [broken]
    decide +kernel
  obtain ⟨-, -, stdout, stderr, changes⟩ :=
    broken_settings_count_as_absent asked (by decide) standing regular apart
  have skipped : lines (skipWarnings .halfGarbled) =
      "Warning: skipping config: Failed to read config file: /p/.lintfix.toml: " ++
        "stream did not contain valid UTF-8\n" := by
    decide +kernel
  rw [skipped] at stderr
  obtain ⟨printed, changed⟩ := run_halfGarbled asked
  have new : Workspace.halfGarbled.tree.node? ["p".toList, "a.ts".toList] ≠
      some (.file "x;\n".toUTF8 .full) := by
    have before : Workspace.halfGarbled.tree.node? ["p".toList, "a.ts".toList] =
        some (.file "x;;\n".toUTF8 .full) := by
      rfl
    rw [before]
    simp only [ne_eq, Option.some.injEq, Node.file.injEq, and_true]
    decide
  exact ⟨asked, broken, printed, changed, stderr, stdout.trans printed,
    ((changes _ _).mpr ⟨changed, new⟩).1⟩

end LintRepair.CommandLine
