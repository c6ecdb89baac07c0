import LintRepair.Proofs.CommandLine.RepairRun
import LintRepair.Proofs.CommandLine.Words
import LintRepair.Proofs.Files.Writing
import LintRepair.Proofs.Repair.DryRun

/-! # What a run changes

A run that fails changes nothing. A run that starts a project writes the settings file of the current
directory, and any other run at most the bytes of the files that it is given.
-/

namespace LintRepair

open LintRepair.Files

namespace Pipeline

variable {t : FileTree} {cwd place : Location} {paths : List FilePath}

theorem outline_repairAll_mode (p : Pipeline) (mode : RepairMode) (cwd : Location) (t : FileTree)
    (paths : List FilePath) : (p.repairAll mode cwd t paths).2.outline = t.outline := by
  cases mode with
  | write => exact p.outline_repairAll cwd t paths
  | dryRun => rw [repairAll_dryRun]

/-- What repair changes are the bytes of files that the paths name. -/
theorem named_of_changed (p : Pipeline) (mode : RepairMode)
    (changed : (p.repairAll mode cwd t paths).2.node? place ≠ t.node? place) :
    (∃ path ∈ paths, t.resolve cwd path = .ok place) ∧
      ∃ bytes bytes' access, t.node? place = some (.file bytes access) ∧
        (p.repairAll mode cwd t paths).2.node? place = some (.file bytes' access) := by
  cases mode with
  | dryRun =>
    rw [repairAll_dryRun] at changed
    exact absurd rfl changed
  | write =>
    have kinds : ((p.repairAll .write cwd t paths).2.node? place).map Node.kind =
        (t.node? place).map Node.kind := by
      rw [FileTree.kind_node?, FileTree.kind_node?, outline_repairAll]
    constructor
    · by_contra unnamed
      have count : paths.countP (t.names cwd place) = 0 := by
        rw [List.countP_eq_zero]
        exact fun path hpath named => unnamed ⟨path, hpath, FileTree.names_iff.mp named⟩
      rw [node?_repairAll, count, Function.iterate_zero, Option.map_id_fun] at changed
      exact changed rfl
    · cases before : t.node? place with
      | none =>
        rw [before, Option.map_none, Option.map_eq_none_iff] at kinds
        exact absurd (kinds.trans before.symm) changed
      | some node =>
        rw [before, Option.map_some] at kinds
        obtain ⟨after, stands, kind⟩ := Option.map_eq_some_iff.mp kinds
        cases node with
        | directory =>
          cases after with
          | directory => exact absurd (stands.trans before.symm) changed
          | file bytes access => cases kind
        | file bytes access =>
          cases after with
          | directory => cases kind
          | file bytes' access' =>
            cases kind
            exact ⟨bytes, bytes', access, rfl, stands⟩

end Pipeline

namespace CommandLine

variable {w : Workspace} {args files : List String} {force : Bool}

/-- Starting a project fails and changes nothing, or writes the template as the settings file of the
    current directory, where there was none unless it may be replaced. -/
theorem writeTemplate_cases (w : Workspace) (force : Bool) :
    (writeTemplate w force).tree = w.tree ∨ (writeTemplate w force).code = 0 ∧
      w.tree.Written (writeTemplate w force).tree (w.cwd ++ [settingsFile.toList])
        Settings.template.toUTF8 ∧
      (force = false → w.tree.node? (w.cwd ++ [settingsFile.toList]) = none) := by
  rw [writeTemplate]
  split
  · exact .inl rfl
  · rename_i free
    cases written : w.tree.write w.cwd ⟨settingsFile⟩ Settings.template.toUTF8 with
    | error cause => exact .inl rfl
    | ok tree =>
      obtain ⟨place, target, does⟩ := FileTree.written_of_write written
      obtain rfl := FileTree.target_of_name (by rfl) (by rfl) (by rfl) target
      refine .inr ⟨rfl, does, ?_⟩
      rintro rfl
      exact FileTree.absent_of_not_exists target (by simpa using free)

theorem tree_showSettings (w : Workspace) : (showSettings w).tree = w.tree := by
  rw [showSettings]
  split <;> rfl

theorem tree_validateSettings (w : Workspace) : (validateSettings w).tree = w.tree := by
  rw [validateSettings]
  split <;> rfl

/-- What a run may change. -/
structure ChangesOnly (w : Workspace) (args : List String) : Prop where
  failed : (run w args).code ≠ 0 → (run w args).tree = w.tree
  /-- Unless a project is started, everything stays where it is and of its kind, and what changes are
      the bytes of files that are given to repair. -/
  given : (∀ force, Request.read args ≠ .ok (.init force)) →
    (run w args).tree.outline = w.tree.outline ∧
      ∀ place, (run w args).tree.node? place ≠ w.tree.node? place →
        (∃ files dryRun noConfig, Request.read args = .ok (.repair files dryRun noConfig) ∧
          files.Sublist args ∧ ∃ file ∈ files, w.tree.resolve w.cwd ⟨file⟩ = .ok place) ∧
        ∃ bytes bytes' access, w.tree.node? place = some (.file bytes access) ∧
          (run w args).tree.node? place = some (.file bytes' access)
  /-- When a project is started, what changes is the settings file of the current directory. It becomes
      the template, and is new unless it may be replaced. -/
  started : ∀ force, Request.read args = .ok (.init force) → Flag.init.word ∈ args ∧
    ∀ place, (run w args).tree.node? place ≠ w.tree.node? place →
      place = w.cwd ++ [settingsFile.toList] ∧
      (∃ access, (run w args).tree.node? place = some (.file Settings.template.toUTF8 access) ∧
        (w.tree.node? place = none ∨ ∃ bytes, w.tree.node? place = some (.file bytes access))) ∧
      (Flag.force.word ∉ args → w.tree.node? place = none)

theorem changesOnly_of_same (asked : ∀ force, Request.read args ≠ .ok (.init force))
    (same : (run w args).tree = w.tree) : ChangesOnly w args where
  failed _ := same
  given _ := ⟨by rw [same], fun place changed => absurd (by rw [same]) changed⟩
  started force h := absurd h (asked force)

theorem changesOnly_of_init (asked : Request.read args = .ok (.init force)) : ChangesOnly w args := by
  have runs : run w args = writeTemplate w force := by
    rw [run, asked]
    rfl
  obtain ⟨init, overwrite⟩ := words_of_read_init asked
  rcases writeTemplate_cases w force with same | ⟨code, written, fresh⟩
  · exact ⟨fun _ => by rw [runs, same], fun none => absurd asked (none force),
      fun _ _ => ⟨init, fun place changed => absurd (by rw [runs, same]) changed⟩⟩
  · refine ⟨fun failed => absurd (by rw [runs, code]) failed, fun none => absurd asked (none force),
      fun _ _ => ⟨init, fun place changed => ?_⟩⟩
    rw [runs] at changed ⊢
    obtain rfl : place = w.cwd ++ [settingsFile.toList] := by
      by_contra ne
      exact changed (written.others place ne)
    exact ⟨rfl, written.there, fun kept => fresh (Bool.eq_false_iff.mpr fun h => kept (overwrite h))⟩

theorem changesOnly_of_repair {dryRun noConfig : Bool}
    (asked : Request.read args = .ok (.repair files dryRun noConfig)) : ChangesOnly w args := by
  have other (force : Bool) : Request.read args ≠ .ok (.init force) := by
    simp [asked]
  obtain ⟨builtin, compiled, -⟩ := Catalog.exists_default_pipeline
  by_cases none : files = []
  · refine changesOnly_of_same other ?_
    rw [run, asked]
    simp only [answer, withPipeline_eq compiled, none]
    rfl
  · have runs := run_of_repair compiled asked none w
    refine ⟨fun failed => absurd (by rw [runs]) failed, fun _ => ⟨?_, fun place changed => ?_⟩,
      fun force h => absurd h (other force)⟩
    · rw [runs]
      exact Pipeline.outline_repairAll_mode _ _ _ _ _
    · rw [runs] at changed ⊢
      obtain ⟨⟨path, hpath, resolved⟩, file⟩ := Pipeline.named_of_changed _ _ changed
      obtain ⟨file', hfile, rfl⟩ := List.mem_map.mp hpath
      exact ⟨⟨files, dryRun, noConfig, asked, files_sublist_of_read asked, file', hfile, resolved⟩,
        file⟩

/-- Whatever the arguments, the files and the surroundings are, a run changes only what it should. -/
theorem run_changesOnly (w : Workspace) (args : List String) : ChangesOnly w args := by
  obtain ⟨builtin, compiled, -⟩ := Catalog.exists_default_pipeline
  cases asked : Request.read args with
  | error refusal => exact changesOnly_of_same (by simp [asked]) (by rw [run, asked])
  | ok request =>
    cases request with
    | init force => exact changesOnly_of_init asked
    | repair files dryRun noConfig => exact changesOnly_of_repair asked
    | help topic => exact changesOnly_of_same (by simp [asked]) (by rw [run, asked]; rfl)
    | version => exact changesOnly_of_same (by simp [asked]) (by rw [run, asked]; rfl)
    | listRules noConfig =>
      refine changesOnly_of_same (by simp [asked]) ?_
      rw [run, asked]
      simp only [answer, withPipeline_eq compiled, listRules]
    | settings command =>
      refine changesOnly_of_same (by simp [asked]) ?_
      rw [run, asked]
      cases command with
      | showFiles => exact tree_showSettings w
      | validate => exact tree_validateSettings w

end CommandLine

end LintRepair
