import LintRepair.Proofs.CommandLine.Words

/-! # Which options count

Of the options among the arguments those before two dashes count, whatever stands between them. What is
asked for depends on no other word, but for the files and for the settings to look at.
-/

namespace LintRepair.CommandLine

variable {arg : String} {args words : List String} {r : Request} {afterFile : Bool}

/-- The words among which options are looked for. -/
def optionWords (args : List String) : List String := args.takeWhile (· ≠ "--")

theorem optionWords_dashes (args : List String) : optionWords ("--" :: args) = [] :=
  List.takeWhile_cons_of_neg (by simp)

theorem optionWords_cons (h : arg ≠ "--") : optionWords (arg :: args) = arg :: optionWords args :=
  List.takeWhile_cons_of_pos (by simpa using h)

theorem Flag.word_ne_of_plain (h : Word.ofArgument arg = .plain) (f : Flag) : f.word ≠ arg := by
  rintro rfl
  rw [f.ofArgument_word] at h
  cases h

theorem Flag.word_ne_dashes (f : Flag) : f.word ≠ "--" := by
  cases f <;> decide

theorem Flag.word_injective : Function.Injective Flag.word := by
  intro f f' same
  cases f <;> cases f' <;> first | rfl | exact absurd same (by decide)

/-- Settings are looked at only if nothing but their own words follows. -/
theorem optionWords_of_leaf {topic : Topic} {command command' : SettingsCommand}
    (h : leaf topic command args = .ok (.settings command')) : optionWords args = [] := by
  unfold leaf at h
  split at h
  · rfl
  · exact optionWords_dashes []
  · cases h
  · obtain ⟨_, same⟩ := help_of_helpOr h
    cases same

theorem not_mem_optionWords_of_configWords {command : SettingsCommand}
    (h : configWords args = .ok (.settings command)) (f : Flag) :
    f.word ∉ optionWords ("config" :: args) := by
  have named (name : String) (rest : List String) (none : optionWords rest = [])
      (other : name ≠ "--") (noFlag : f.word ≠ name) :
      f.word ∉ optionWords ("config" :: name :: rest) := by
    rw [optionWords_cons (by decide), optionWords_cons other, none]
    simp [noFlag, f.word_ne_subcommand.1]
  unfold configWords at h
  split at h
  · cases h
  · exact named _ _ (optionWords_of_leaf h) (by decide) (by cases f <;> decide)
  · exact named _ _ (optionWords_of_leaf h) (by decide) (by cases f <;> decide)
  · obtain ⟨_, same⟩ := Topic.help_of_find h
    cases same
  · cases h
  · split at h <;> cases h
  · obtain ⟨_, same⟩ := help_of_helpOr h
    cases same

namespace Given

variable {g : Given} {command : Option SettingsCommand}

theorem has_addFile_flag (g : Given) (file : String) (f : Flag) :
    (g.addFile file).has (.flag f) = true ↔ g.has (.flag f) = true := by
  have files : (g.addFile file).has (.flag f) = (g.add .files).has (.flag f) := rfl
  rw [files, has_add_iff]
  exact or_iff_left Item.noConfusion

theorem has_addFiles_flag (g : Given) (files : List String) (f : Flag) :
    (g.addFiles files).has (.flag f) = true ↔ g.has (.flag f) = true := by
  induction files generalizing g with
  | nil => rfl
  | cons file files ih => rw [addFiles_cons, ih, has_addFile_flag]

/-- What is asked for beyond information depends on exactly the options among the words. -/
theorem Takes.options (h : g.Takes afterFile words r) : r.Informs ∨
    ∃ (g' : Given) (command : Option SettingsCommand), g'.request command = r ∧
      ∀ f, g'.has (.flag f) = true ↔ g.has (.flag f) = true ∨ f.word ∈ optionWords words := by
  induction h with
  | @done g _ _ finished =>
    exact .inr ⟨g, none, (finishAlone_eq_ok_iff.mp finished).2.2.2, fun f => by simp [optionWords]⟩
  | inform informs => exact .inl informs
  | @settings g _ _ command called finished =>
    exact .inr ⟨g, command, (finish_eq_ok_iff.mp finished).2, fun f => by
      simp [not_mem_optionWords_of_configWords called f]⟩
  | @dashes g _ files _ finished =>
    exact .inr ⟨_, none, (finishAlone_eq_ok_iff.mp finished).2.2.2, fun f => by
      simp [optionWords_dashes, has_addFiles_flag]⟩
  | @file g _ arg _ _ free plain rest ih =>
    refine ih.imp id ?_
    rintro ⟨g', command, rfl, has⟩
    have noDashes : arg ≠ "--" := by
      rintro rfl
      exact absurd plain (by decide)
    refine ⟨g', command, rfl, fun f => ?_⟩
    rw [has, has_addFile_flag, optionWords_cons noDashes, List.mem_cons,
      or_iff_right (f.word_ne_of_plain plain)]
  | @flag g _ _ _ f named fresh rest ih =>
    refine ih.imp id ?_
    rintro ⟨g', command, rfl, has⟩
    refine ⟨g', command, rfl, fun f' => ?_⟩
    rw [has, has_add_iff, optionWords_cons f.word_ne_dashes, List.mem_cons, or_assoc,
      Item.flag.injEq, Flag.word_injective.eq_iff]

/-! The option that leaves settings out -/

/-- The same with the option given first that leaves settings out. -/
def withNoConfig (g : Given) : Given := { g with items := .flag .noConfig :: g.items }

theorem has_withNoConfig {i : Item} (other : i ≠ .flag .noConfig) :
    g.withNoConfig.has i = g.has i := by
  rw [has, has, withNoConfig, List.contains_cons, beq_false_of_ne other, Bool.false_or]

theorem add_withNoConfig {i : Item} (other : i ≠ .flag .noConfig) :
    g.withNoConfig.add i = (g.add i).withNoConfig := by
  rw [add, has_withNoConfig other, add]
  split <;> rfl

theorem addFile_withNoConfig (g : Given) (file : String) :
    g.withNoConfig.addFile file = (g.addFile file).withNoConfig := by
  rw [addFile, add_withNoConfig Item.noConfusion]
  rfl

theorem addFiles_withNoConfig (g : Given) (files : List String) :
    g.withNoConfig.addFiles files = (g.addFiles files).withNoConfig := by
  induction files generalizing g with
  | nil => rfl
  | cons file files ih => rw [addFiles_cons, addFiles_cons, addFile_withNoConfig, ih]

/-- The option excludes nothing and needs nothing. -/
theorem fault?_withNoConfig (g : Given) : g.withNoConfig.fault? = g.fault? := by
  have first : g.items.filter (Item.excludes (.flag .noConfig)) = [] :=
    List.filter_eq_nil_iff.mpr fun i _ => by cases i <;> simp [Item.excludes]
  have others (i : Item) :
      g.withNoConfig.items.filter i.excludes = g.items.filter i.excludes := by
    refine List.filter_cons_of_neg ?_
    cases i with
    | files => simp [Item.excludes]
    | flag f => cases f <;> simp [Item.excludes]
  have conflict : g.withNoConfig.conflict? = g.conflict? := by
    simp only [conflict?, others]
    rw [withNoConfig, List.map_cons, List.find?_cons_of_neg (by simp [first])]
  rw [fault?, conflict, fault?, has_withNoConfig (by simp), has_withNoConfig (by simp),
    has_withNoConfig (by simp)]

theorem finishAlone_withNoConfig {files : List String} {dryRun : Bool}
    (h : g.finishAlone = .ok (.repair files dryRun false)) :
    g.withNoConfig.finishAlone = .ok (.repair files dryRun true) := by
  obtain ⟨named, -, sound, asked⟩ := finishAlone_eq_ok_iff.mp h
  obtain ⟨init, -, list, given, dry, -⟩ := request_eq_repair_iff.mp asked
  refine finishAlone_eq_ok_iff.mpr ⟨named, rfl, (fault?_withNoConfig g).trans sound,
    request_eq_repair_iff.mpr ⟨?_, rfl, ?_, given, ?_, ?_⟩⟩
  · rw [has_withNoConfig (by simp), init]
  · rw [has_withNoConfig (by simp), list]
  · rw [has_withNoConfig (by simp), dry]
  · simp [withNoConfig, has]

/-- Whatever words ask for a repair with settings, with the option they ask for the same without. -/
theorem Takes.withNoConfig {files : List String} {dryRun : Bool} (h : g.Takes afterFile words r)
    (asked : r = .repair files dryRun false) :
    g.withNoConfig.read afterFile words = .ok (.repair files dryRun true) := by
  induction h with
  | done finished => exact finishAlone_withNoConfig (asked ▸ finished)
  | inform informs =>
    rw [asked] at informs
    exact informs.elim
  | @settings g _ _ command _ finished =>
    have requested := (finish_eq_ok_iff.mp finished).2.trans asked
    rcases g.request_some command with ⟨force, same⟩ | same <;>
      rw [same] at requested <;> cases requested
  | @dashes g _ files _ finished =>
    rw [read_dashes, addFiles_withNoConfig]
    exact finishAlone_withNoConfig (asked ▸ finished)
  | @file g _ file _ _ free plain _ ih =>
    rw [read_file free plain, addFile_withNoConfig]
    exact ih asked
  | @flag g _ _ _ f named fresh rest ih =>
    -- Were the option among the words already, no settings would be asked for.
    have other : Item.flag f ≠ .flag .noConfig := by
      intro same
      rcases rest.options with informs | ⟨g', command, requested, has⟩
      · rw [asked] at informs
        exact informs.elim
      · obtain ⟨-, -, -, -, -, without⟩ := request_eq_repair_iff.mp (requested.trans asked)
        have given : g'.has (.flag .noConfig) = true :=
          (has .noConfig).mpr (.inl (has_add_iff.mpr (.inr same.symm)))
        rw [without] at given
        cases given
    have named' : g.withNoConfig.files.contains "" = false := named
    have fresh' : g.withNoConfig.has (.flag f) = false := (has_withNoConfig other).trans fresh
    rw [read_word named' fresh', add_withNoConfig other]
    exact ih asked

end Given

/-- Arguments that ask for a repair with settings ask for the same repair without, when the option that
    leaves settings out is put in front. -/
theorem read_noConfig {files : List String} {dryRun : Bool}
    (h : Request.read args = .ok (.repair files dryRun false)) :
    Request.read (Flag.noConfig.word :: args) = .ok (.repair files dryRun true) := by
  rw [Request.read, Given.read_word rfl rfl]
  exact (Given.takes_of_read h).withNoConfig rfl

end LintRepair.CommandLine
