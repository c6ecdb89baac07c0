import LintRepair.Proofs.CommandLine.Changes
import LintRepair.Proofs.CommandLine.Options

/-! # Runs that only look

A dry run, a list of the rules and a look at the settings leave every file as it is. To start a project
takes precedence over all of them, and then the settings file is written.
-/

namespace LintRepair.CommandLine

open LintRepair.Files

variable {w : Workspace} {args words : List String} {r : Request}

/-- The word for a look at the settings, behind `config`. -/
def SettingsCommand.word : SettingsCommand → String
  | .showFiles => "show"
  | .validate => "validate"

/-- Whether the word behind some words can call a subcommand: there is no file directly before it, and
    options still count. -/
structure CanCall (before : List String) : Prop where
  counting : "--" ∉ before
  apart : ∀ last ∈ before.getLast?, Word.ofArgument last ≠ .plain

theorem CanCall.tail {word : String} {before : List String} (h : CanCall (word :: before)) :
    CanCall before where
  counting dashes := h.counting (List.mem_cons_of_mem word dashes)
  apart last hlast := by
    refine h.apart last ?_
    rw [List.getLast?_cons, Option.mem_def.mp hlast]
    rfl

/-- Whether arguments ask only to look at files, rules or settings. -/
inductive OnlyLooks (args : List String) : Prop where
  | dryRun (given : Flag.dryRun.word ∈ optionWords args)
  | listRules (given : Flag.listRules.word ∈ optionWords args)
  | settings (command : SettingsCommand) (before after : List String) (free : CanCall before)
      (called : args = before ++ "config" :: command.word :: after)

/-- Whether a request leaves all files alone. -/
def Request.Reads : Request → Prop
  | .init _ => False
  | .repair _ dryRun _ => dryRun = true
  | _ => True

theorem tree_answer_of_reads (h : r.Reads) (w : Workspace) : (answer w r).tree = w.tree := by
  obtain ⟨builtin, compiled, -⟩ := Catalog.exists_default_pipeline
  cases r with
  | help topic => rfl
  | version => rfl
  | init force => exact h.elim
  | settings command =>
    cases command with
    | showFiles => exact tree_showSettings w
    | validate => exact tree_validateSettings w
  | listRules noConfig => simp only [answer, withPipeline_eq compiled, listRules]
  | repair files dryRun noConfig =>
    obtain rfl : dryRun = true := h
    simp only [answer, withPipeline_eq compiled, repairFiles]
    split
    · rfl
    · simp only [if_true, Pipeline.repairAll_dryRun]

theorem Request.Informs.reads (h : r.Informs) : r.Reads := by
  cases r <;> trivial

namespace Given

variable {g : Given} {command : Option SettingsCommand} {afterFile : Bool} {before rest : List String}

/-- Unless a project is started, options that only look leave all files alone. -/
theorem reads_request (unstarted : g.has (.flag .init) = false)
    (looks : g.has (.flag .dryRun) = true ∨ g.has (.flag .listRules) = true) :
    (g.request command).Reads := by
  unfold request
  rw [if_neg (by simp [unstarted])]
  cases command with
  | some command => trivial
  | none =>
    rcases looks with dryRun | listRules
    · dsimp only
      split
      · trivial
      · exact dryRun
    · simp only [listRules, if_true]
      trivial

/-- Where a subcommand can be called, its word calls it. -/
theorem Takes.calls (h : g.Takes afterFile words r) (free : CanCall before)
    (apart : before = [] → afterFile = false) (called : words = before ++ "config" :: rest) :
    r.Informs ∨ (∃ force, r = .init force) ∨ ∃ command, r = .settings command := by
  induction h generalizing before with
  | done => simp at called
  | inform informs => exact .inl informs
  | @settings g _ _ command _ finished =>
    rw [← (finish_eq_ok_iff.mp finished).2]
    exact .inr ((g.request_some command).imp id fun h => ⟨command, h⟩)
  | dashes =>
    cases before with
    | nil => simp at called
    | cons word before =>
      obtain ⟨rfl, -⟩ := List.cons.inj called
      exact absurd List.mem_cons_self free.counting
  | @file _ afterFile arg _ _ unnamed plain _ ih =>
    cases before with
    | nil =>
      obtain ⟨rfl, -⟩ := List.cons.inj called
      rw [apart rfl] at unnamed
      simp at unnamed
    | cons word before =>
      obtain ⟨rfl, others⟩ := List.cons.inj called
      refine ih free.tail ?_ others
      rintro rfl
      exact absurd plain (free.apart _ rfl)
  | @flag _ _ _ _ f _ _ _ ih =>
    cases before with
    | nil =>
      obtain ⟨same, -⟩ := List.cons.inj called
      exact absurd same f.word_ne_subcommand.1
    | cons word before =>
      obtain ⟨rfl, others⟩ := List.cons.inj called
      exact ih free.tail (fun _ => rfl) others

end Given

theorem reads_of_onlyLooks (looks : OnlyLooks args) (asked : Request.read args = .ok r)
    (unstarted : Flag.init.word ∉ optionWords args) : r.Reads := by
  have takes := Given.takes_of_read asked
  rcases takes.options with informs | ⟨g, command, rfl, has⟩
  · exact informs.reads
  have given (f : Flag) : g.has (.flag f) = true ↔ f.word ∈ optionWords args := by
    rw [has]
    exact or_iff_right Bool.false_ne_true
  have init : g.has (.flag .init) = false := by
    rw [Bool.eq_false_iff, ne_eq, given]
    exact unstarted
  cases looks with
  | dryRun word => exact Given.reads_request init (.inl ((given _).mpr word))
  | listRules word => exact Given.reads_request init (.inr ((given _).mpr word))
  | settings look before after free called =>
    rcases takes.calls free (fun _ => rfl) called with informs | ⟨force, same⟩ | ⟨command', same⟩
    · exact informs.reads
    · exact absurd (Given.request_eq_init same).1 (by simp [init])
    · rw [same]
      trivial

/-- A project is started whatever else is asked for, unless the program itself is asked about. -/
theorem init_of_option (asked : Request.read args = .ok r)
    (given : Flag.init.word ∈ optionWords args) : r.Informs ∨ ∃ force, r = .init force := by
  rcases (Given.takes_of_read asked).options with informs | ⟨g, command, rfl, has⟩
  · exact .inl informs
  · have init : g.has (.flag .init) = true := (has .init).mpr (.inr given)
    exact .inr ⟨g.has (.flag .force), if_pos init⟩

/-- Arguments that ask only to look and are accepted leave all files as they are, unless `--init` is an
    option among them. With that option, they start a project or ask about the program itself. -/
theorem run_leaves_files (looks : OnlyLooks args) (asked : Request.read args = .ok r) :
    (Flag.init.word ∉ optionWords args → ∀ w : Workspace, (run w args).tree = w.tree) ∧
      (Flag.init.word ∈ optionWords args → r.Informs ∨ ∃ force, r = .init force) := by
  refine ⟨fun unstarted w => ?_, init_of_option asked⟩
  have runs : run w args = answer w r := by
    rw [run, asked]
  rw [runs]
  exact tree_answer_of_reads (reads_of_onlyLooks looks asked unstarted) w

/-- A dry run says that it would change a file and does not. -/
theorem run_leaves_files_halfGarbled :
    OnlyLooks ["--dry-run", "a.ts"] ∧
      Request.read ["--dry-run", "a.ts"] = .ok (.repair ["a.ts"] true false) ∧
      Flag.init.word ∉ optionWords ["--dry-run", "a.ts"] ∧
      (run .halfGarbled ["--dry-run", "a.ts"]).stdout = "Would fix: a.ts\n" ∧
      (run .halfGarbled ["--dry-run", "a.ts"]).tree = Workspace.halfGarbled.tree := by
  have looks : OnlyLooks ["--dry-run", "a.ts"] := .dryRun (by decide)
  have asked : Request.read ["--dry-run", "a.ts"] = .ok (.repair ["a.ts"] true false) := by rfl
  have unstarted : Flag.init.word ∉ optionWords ["--dry-run", "a.ts"] := by decide
  exact ⟨looks, asked, unstarted, (run_halfGarbled asked).1,
    (run_leaves_files looks asked).1 unstarted .halfGarbled⟩

/-- A directory with nothing in it. -/
def bare : Workspace := ⟨⟨[(["p".toList], .directory)]⟩, ["p".toList], some ⟨"/home"⟩⟩

/-- A dry run writes the settings file when a project is started. -/
theorem init_writes_in_dry_run :
    OnlyLooks ["--init", "--dry-run"] ∧
      Request.read ["--init", "--dry-run"] = .ok (.init false) ∧
      bare.tree.node? ["p".toList, settingsFile.toList] = none ∧
      (run bare ["--init", "--dry-run"]).tree.node? ["p".toList, settingsFile.toList] =
        some (.file Settings.template.toUTF8 .full) :=
  ⟨.dryRun (by decide), by rfl, by rfl, by rfl⟩

end LintRepair.CommandLine
