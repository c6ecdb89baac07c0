import LintRepair.Proofs.CommandLine.ReadOnly
import LintRepair.Proofs.Files.Member
import LintRepair.Proofs.Settings.Template

/-! # A project that has been started

The settings file with which a project starts ends the search for settings and asks for nothing but the
built-in rules. So in its directory, if it can be read there, a repair with settings is a repair without,
whatever outer directories hold, and no run changes that.
-/

namespace LintRepair

open LintRepair.Files LintRepair.Text

namespace Workspace

variable {w : Workspace} {path : FilePath} {t : FileTree}

/-- The place of the settings file of the current directory. -/
def ownPlace (w : Workspace) : Location := w.cwd ++ [settingsFile.toList]

/-- The settings file of the current directory as the search for settings spells it. -/
def ownFile (w : Workspace) : FilePath := w.here.file settingsFile

/-- Whether the current directory is there, where the names on its way lead. -/
def Located (w : Workspace) : Prop := w.tree.walk [] w.here.segments = .ok w.cwd

/-- Whether the settings file of the current directory can be read as the search for settings does it.
    When it is written again, what may be done with it stays; and its full path may be too long for the
    search although its name is not. -/
def Legible (w : Workspace) : Prop := ∃ bytes, w.tree.read w.cwd w.ownFile = .ok bytes

theorem origin_here (w : Workspace) : FileTree.origin w.cwd w.here = [] := by
  simp [FileTree.origin, FilePath.isAbsolute, here]

/-- Whether the home directory has no settings file but that of the current directory. -/
def HomeAside (w : Workspace) : Prop := ∀ path, w.homeFile? = some path →
  w.tree.exists? w.cwd path = false ∨ w.tree.resolve w.cwd path = .ok w.ownPlace

/-- Whether the search for settings comes first to the template and then to nothing else. -/
structure Shielded (w : Workspace) : Prop where
  own : ∃ access, w.tree.node? w.ownPlace = some (.file Settings.template.toUTF8 access) ∧
    access.canRead = true
  found : w.tree.resolve w.cwd w.ownFile = .ok w.ownPlace
  home : w.HomeAside

namespace Shielded

theorem settings? (h : w.Shielded) (resolved : w.tree.resolve w.cwd path = .ok w.ownPlace) :
    w.settings? path = some (.ok Settings.initial) := by
  obtain ⟨access, node, readable⟩ := h.own
  have decoded : Utf8.decode Settings.template.toUTF8 = .ok Settings.template :=
    Utf8.decode_eq_ok_iff.mpr rfl
  have held : Settings.ofNode path (w.tree.node? w.ownPlace) = .ok Settings.initial := by
    rw [node, Settings.ofNode, if_pos readable, decoded]
    exact Settings.parse_template path
  rw [settings?_eq, resolved, ← held]
  rfl

/-- All settings that are found say what the template says. -/
theorem cascade (h : w.Shielded) : (w.cascade w.here).faults = [] ∧ (w.cascade w.here).loaded ≠ [] ∧
    ∀ l ∈ (w.cascade w.here).loaded, l.settings = Settings.initial := by
  obtain ⟨dirs, ancestors⟩ := w.here.exists_ancestors
  have own : w.settings? (w.here.file settingsFile) = some (.ok Settings.initial) :=
    h.settings? h.found
  have search : w.search w.here.ancestors = ⟨[⟨w.ownFile, Settings.initial⟩], []⟩ := by
    rw [ancestors, Workspace.search]
    simp only [own]
    rfl
  have home (found : List LoadedSettings) : w.homeFaults found = [] ∧
      ∀ l ∈ w.homeLoaded found, l.settings = Settings.initial := by
    rw [homeFaults, homeLoaded]
    cases atHome : w.homeFile? with
    | none => simp
    | some path =>
      rcases h.home path atHome with missing | resolved
      · have none : w.settings? path = none := by simp [Workspace.settings?, missing]
        simp [faultAt?, usableAt?, none]
      · simp only [faultAt?, usableAt?, h.settings? resolved, Option.toList_none, ite_self, true_and]
        split <;> simp
  obtain ⟨sound, same⟩ := home [⟨w.ownFile, Settings.initial⟩]
  rw [Workspace.cascade, withHome_eq, search]
  refine ⟨sound, by simp, fun l hl => ?_⟩
  rcases List.mem_append.mp hl with first | atHome
  · rw [List.mem_singleton.mp first]
  · exact same l atHome

end Shielded

/-- The surroundings after a run. -/
def after (w : Workspace) (args : List String) : Workspace :=
  { w with tree := (CommandLine.run w args).tree }

/-- The surroundings after runs one after the other. -/
def afterAll (w : Workspace) (runs : List (List String)) : Workspace := runs.foldl after w

end Workspace

namespace CommandLine

variable {w : Workspace} {args files : List String} {dryRun noConfig force : Bool}
  {builtin : Pipeline}

/-- Behind the template, settings make no difference and are worth no warning. -/
theorem ruling_of_shielded (h : w.Shielded) (compiled : Catalog.pipeline = .ok builtin)
    (noConfig : Bool) : ruling w noConfig builtin = builtin ∧ warnings w noConfig = [] := by
  obtain ⟨sound, nonempty, initial⟩ := h.cascade
  have settled : settled w = .ok builtin :=
    (Effective.pipeline_of_initial nonempty initial).trans compiled
  cases noConfig with
  | true => exact ⟨rfl, rfl⟩
  | false =>
    refine ⟨by rw [ruling, settled]; rfl, ?_⟩
    rw [warnings, skipWarnings, sound, ignoreWarnings, settled]
    rfl

theorem run_of_shielded (h : w.Shielded) (compiled : Catalog.pipeline = .ok builtin)
    (asked : Request.read args = .ok (.repair files dryRun noConfig)) :
    run w args = repairFiles w builtin files dryRun := by
  obtain ⟨pipeline, silent⟩ := ruling_of_shielded h compiled noConfig
  rw [run, asked]
  simp only [answer, withPipeline_eq compiled, pipeline, silent]
  simp [lines]

theorem write_of_writeTemplate (h : (writeTemplate w force).code = 0) :
    w.tree.write w.cwd ⟨settingsFile⟩ Settings.template.toUTF8 =
      .ok (writeTemplate w force).tree := by
  rw [writeTemplate] at h ⊢
  split
  · rename_i there
    rw [if_pos there] at h
    cases h
  · rename_i free
    rw [if_neg free] at h
    cases written : w.tree.write w.cwd ⟨settingsFile⟩ Settings.template.toUTF8 with
    | error cause =>
      rw [written] at h
      cases h
    | ok tree => rfl

end CommandLine

namespace Workspace.Shielded

open LintRepair.CommandLine

variable {w : Workspace} {t : FileTree} {builtin : Pipeline}

/-- Only the ways of paths and the settings file of the current directory count. -/
theorem withTree (h : w.Shielded) (ways : ∀ path, t.resolve w.cwd path = w.tree.resolve w.cwd path)
    (own : t.node? w.ownPlace = w.tree.node? w.ownPlace) : ({ w with tree := t } : Workspace).Shielded where
  own := by
    obtain ⟨access, node, readable⟩ := h.own
    exact ⟨access, own.trans node, readable⟩
  found := (ways _).trans h.found
  home path atHome := by
    rw [FileTree.exists?, ways]
    exact h.home path atHome

/-- To start a project again puts the template where it is. -/
theorem afterInit (h : w.Shielded) (force : Bool) :
    ({ w with tree := (writeTemplate w force).tree } : Workspace).Shielded := by
  rcases writeTemplate_cases w force with same | ⟨-, written, -⟩
  · rw [same]
    exact h
  · obtain ⟨access, node, -⟩ := h.own
    obtain ⟨access', there, before⟩ := written.there
    have own : (writeTemplate w force).tree.node? w.ownPlace = w.tree.node? w.ownPlace := by
      rcases before with none | ⟨old, before⟩
      · rw [ownPlace, none] at node
        cases node
      · obtain ⟨-, rfl⟩ : old = Settings.template.toUTF8 ∧ access' = access := by
          simpa using before.symm.trans node
        exact there.trans node.symm
    refine h.withTree (fun path => FileTree.resolve_congr fun q _ => ?_) own
    by_cases here : q = w.ownPlace
    · rw [here, own]
    · exact written.others q here

/-- A repair leaves the template as it is. -/
theorem afterRepair (h : w.Shielded) (compiled : Catalog.pipeline = .ok builtin) (files : List String)
    (dryRun : Bool) :
    ({ w with tree := (repairFiles w builtin files dryRun).tree } : Workspace).Shielded := by
  by_cases none : files = []
  · rw [none]
    exact h
  · rw [repairFiles_eq none, repaired]
    have outline := builtin.outline_repairAll_mode (repairMode dryRun) w.cwd w.tree
      (files.map FilePath.mk)
    refine h.withTree (fun path => FileTree.resolve_eq_of_outline outline _ _) ?_
    cases dryRun with
    | true => rw [repairMode, if_pos rfl, Pipeline.repairAll_dryRun]
    | false =>
      obtain ⟨access, node, readable⟩ := h.own
      have fixed := builtin.repairNode_of_same (Catalog.apply_template compiled) access
      rw [node]
      exact (builtin.repairAll_of_fixed w.cwd _ node fixed).1

/-- A run keeps the shield. -/
theorem after (h : w.Shielded) (args : List String) : (w.after args).Shielded := by
  obtain ⟨builtin, compiled, -⟩ := Catalog.exists_default_pipeline
  rw [Workspace.after]
  cases asked : Request.read args with
  | error refusal =>
    rw [run, asked]
    exact h
  | ok request =>
    by_cases reads : request.Reads
    · rw [run, asked]
      simp only [tree_answer_of_reads reads]
      exact h
    · cases request with
      | init force =>
        rw [run, asked]
        exact h.afterInit force
      | repair files dryRun noConfig =>
        rw [run_of_shielded h compiled asked]
        exact h.afterRepair compiled files dryRun
      | _ => exact absurd trivial reads

/-- Runs keep the shield. -/
theorem afterAll (h : w.Shielded) (runs : List (List String)) : (w.afterAll runs).Shielded := by
  induction runs generalizing w with
  | nil => exact h
  | cons args runs ih => exact ih (h.after args)

end Workspace.Shielded

namespace CommandLine

variable {w : Workspace} {start args files : List String} {force dryRun : Bool}

/-- Once a project is started and its settings file can be read, the template is found there first. -/
theorem shielded_of_init (located : w.Located) (started : Request.read start = .ok (.init force))
    (done : (run w start).code = 0) (legible : (w.after start).Legible)
    (aside : (w.after start).HomeAside) : (w.after start).Shielded := by
  have runs : run w start = writeTemplate w force := by
    rw [run, started]
    rfl
  rw [runs] at done
  have written := write_of_writeTemplate done
  rw [← runs] at written
  obtain ⟨place, target, does⟩ := FileTree.written_of_write written
  obtain rfl : place = w.ownPlace := FileTree.target_of_name (by rfl) (by rfl) (by rfl) target
  obtain ⟨access, there, -⟩ := does.there
  obtain ⟨bytes, legible⟩ := legible
  obtain ⟨place, access', resolved, node, readable⟩ := FileTree.file_of_read legible
  have directory : w.tree.walk (FileTree.origin w.cwd w.here) w.here.segments = .ok w.cwd := by
    rw [w.origin_here]
    exact located
  obtain rfl : place = w.ownPlace :=
    FileTree.eq_of_resolve_file directory resolved (by decide) (by rfl)
  obtain ⟨-, rfl⟩ : bytes = Settings.template.toUTF8 ∧ access' = access := by
    simpa using node.symm.trans there
  exact ⟨⟨access', there, readable⟩, resolved, aside⟩

/-- Where a project has been started and its settings file can be read, every repair does the same as
    without settings, also after further runs. -/
theorem init_shields (located : w.Located) (started : Request.read start = .ok (.init force))
    (done : (run w start).code = 0) (legible : (w.after start).Legible)
    (aside : (w.after start).HomeAside)
    (asked : Request.read args = .ok (.repair files dryRun false)) (runs : List (List String)) :
    Request.read (Flag.noConfig.word :: args) = .ok (.repair files dryRun true) ∧
      ∀ args', Request.read args' = .ok (.repair files dryRun true) →
        run ((w.after start).afterAll runs) args = run ((w.after start).afterAll runs) args' := by
  obtain ⟨builtin, compiled, -⟩ := Catalog.exists_default_pipeline
  have shielded := (shielded_of_init located started done legible aside).afterAll runs
  refine ⟨read_noConfig asked, fun args' asked' => ?_⟩
  rw [run_of_shielded shielded compiled asked, run_of_shielded shielded compiled asked']

end CommandLine

/-- A directory with a file in it below one whose settings leave out a built-in rule. It is the home
    directory. -/
def Workspace.enclosed : Workspace where
  tree :=
    ⟨[(["p".toList, settingsFile.toList],
        .file "disabled-rules = [\"console-log-to-warn\"]\n".toUTF8 .full),
      (["p".toList, "q".toList, "a.ts".toList], .file "console.log(x)\n".toUTF8 .full)]⟩
  cwd := ["p".toList, "q".toList]
  home := some ⟨"/p/q"⟩

/-- The same with an empty settings file inside that may be written only, and with another home. -/
def Workspace.locked : Workspace where
  tree := Workspace.enclosed.tree.put Workspace.enclosed.ownPlace (.file .empty .writeOnly)
  cwd := Workspace.enclosed.cwd
  home := some ⟨"/home"⟩

namespace CommandLine

/-- The settings outside count no more once a project is started inside. -/
theorem init_shields_enclosed :
    Workspace.enclosed.Located ∧ Request.read ["--init"] = .ok (.init false) ∧
      (run .enclosed ["--init"]).code = 0 ∧
      Workspace.enclosed.tree.node? Workspace.enclosed.ownPlace = none ∧
      (Workspace.enclosed.after ["--init"]).Legible ∧
      (Workspace.enclosed.after ["--init"]).HomeAside ∧
      Request.read ["--dry-run", "a.ts"] = .ok (.repair ["a.ts"] true false) ∧
      run ((Workspace.enclosed.after ["--init"]).afterAll [["config", "show"]]) ["--dry-run", "a.ts"] =
        run ((Workspace.enclosed.after ["--init"]).afterAll [["config", "show"]])
          ["--dry-run", "--no-config", "a.ts"] := by
  have located : Workspace.enclosed.Located := by rfl
  have started : Request.read ["--init"] = .ok (.init false) := by rfl
  have done : (run .enclosed ["--init"]).code = 0 := by rfl
  have new : Workspace.enclosed.tree.node? Workspace.enclosed.ownPlace = none := by rfl
  have legible : (Workspace.enclosed.after ["--init"]).Legible :=
    ⟨Settings.template.toUTF8, by rfl⟩
  have aside : (Workspace.enclosed.after ["--init"]).HomeAside := by
    rintro path ⟨⟩
    exact .inr (by rfl)
  have asked : Request.read ["--dry-run", "a.ts"] = .ok (.repair ["a.ts"] true false) := by rfl
  obtain ⟨-, same⟩ := init_shields located started done legible aside asked [["config", "show"]]
  have without : Request.read ["--dry-run", "--no-config", "a.ts"] =
      .ok (.repair ["a.ts"] true true) := by rfl
  exact ⟨located, started, done, new, legible, aside, asked, same _ without⟩

theorem exists_settled_locked :
    ∃ p, settled (Workspace.locked.after ["--init", "--force"]) = .ok p := by
  refine Effective.exists_pipeline ?_ ?_ ?_ <;> decide +kernel

/-- A settings file that may be written but not read is no more readable after a project is started with
    it. A repair with settings warns of it then and goes by those outside. -/
theorem init_leaves_unreadable :
    Workspace.locked.Located ∧ Request.read ["--init", "--force"] = .ok (.init true) ∧
      (run .locked ["--init", "--force"]).code = 0 ∧
      (Workspace.locked.after ["--init", "--force"]).HomeAside ∧
      Request.read ["a.ts"] = .ok (.repair ["a.ts"] false false) ∧
      Request.read ["--no-config", "a.ts"] = .ok (.repair ["a.ts"] false true) ∧
      (run (Workspace.locked.after ["--init", "--force"]) ["a.ts"]).stderr =
        "Warning: skipping config: Failed to read config file: /p/q/.lintfix.toml: " ++
          "Permission denied (os error 13)\n" ∧
      (run (Workspace.locked.after ["--init", "--force"]) ["--no-config", "a.ts"]).stderr = "" ∧
      ((Workspace.locked.after ["--init", "--force"]).cascade Workspace.locked.here).loaded.map
        (fun l => (l.path.text, l.settings.disabledRules)) =
        [("/p/.lintfix.toml", ["console-log-to-warn"])] := by
  obtain ⟨builtin, compiled, -⟩ := Catalog.exists_default_pipeline
  obtain ⟨p, settled⟩ := exists_settled_locked
  have asked : Request.read ["a.ts"] = .ok (.repair ["a.ts"] false false) := by rfl
  have without : Request.read ["--no-config", "a.ts"] = .ok (.repair ["a.ts"] false true) := by rfl
  have skipped : skipWarnings (Workspace.locked.after ["--init", "--force"]) =
      ["Warning: skipping config: Failed to read config file: /p/q/.lintfix.toml: " ++
        "Permission denied (os error 13)"] := by
    decide +kernel
  refine ⟨by rfl, by rfl, by rfl, ?_, asked, without, ?_, ?_, by decide +kernel⟩
  · rintro path ⟨⟩
    exact .inl (by rfl)
  · rw [run_of_repair compiled asked (by decide), warnings, if_neg (by decide), skipped,
      ignoreWarnings, settled]
    rfl
  · rw [run_of_repair compiled without (by decide), warnings, if_pos rfl]
    rfl

end CommandLine

end LintRepair
