import LintRepair.CommandLine.Arguments

/-! # Options and the files after them

Each option is taken once, and after two dashes every word is a file. Options that only say how to
repair exclude nothing, so with files they ask for a repair unless a file has no name.
-/

namespace LintRepair.CommandLine

variable {g : Given} {f : Flag} {flags : List Flag} {file : String} {files : List String}

namespace Flag

/-- An option as it is written. -/
def word (f : Flag) : String := "--" ++ f.name

/-- Whether an option only says how to repair files. -/
def IsMild (f : Flag) : Prop := f = .dryRun ∨ f = .noConfig

theorem ofArgument_word (f : Flag) : Word.ofArgument f.word = .long f.name none := by
  cases f <;> decide

theorem ofName?_name (f : Flag) : ofName? f.name = some f := by
  cases f <;> decide

theorem word_ne_subcommand (f : Flag) : f.word ≠ "config" ∧ f.word ≠ "help" := by
  cases f <;> decide

theorem name_ne_answer (f : Flag) : f.name ≠ "help" ∧ f.name ≠ "version" := by
  cases f <;> decide

end Flag

namespace Given

/-- An option that has not been given yet is taken. -/
theorem read_word (named : g.files.contains "" = false) (fresh : g.has (.flag f) = false)
    (afterFile : Bool) (args : List String) :
    g.read afterFile (f.word :: args) = (g.add (.flag f)).read false args := by
  obtain ⟨config, help⟩ := f.word_ne_subcommand
  obtain ⟨noHelp, noVersion⟩ := f.name_ne_answer
  rw [read]
  simp only [config, help, decide_false, Bool.and_false, Bool.false_eq_true, if_false,
    f.ofArgument_word]
  split
  case h_8 same =>
    obtain ⟨rfl, rfl⟩ := Word.long.inj same
    simp only [f.ofName?_name, takeFlag, named, fresh, Bool.false_eq_true, if_false]
  all_goals simp_all

theorem read_dashes (g : Given) (afterFile : Bool) (args : List String) :
    g.read afterFile ("--" :: args) = (g.addFiles args).finishAlone := by
  have dashes : Word.ofArgument "--" = .dashes := by decide
  rw [read]
  simp [dashes]

/-- Options and then files, in the order given. -/
def ofWords (flags : List Flag) (files : List String) : Given :=
  ⟨flags.map .flag ++ [.files], files⟩

theorem has_flags_iff : (⟨flags.map .flag, files⟩ : Given).has (.flag f) = true ↔ f ∈ flags := by
  simp [has]

/-- Different options are taken one after the other. -/
theorem read_words (given : List Flag) (distinct : (given ++ flags).Nodup) (afterFile : Bool)
    (args : List String) :
    ∃ afterFile', (⟨given.map .flag, []⟩ : Given).read afterFile (flags.map Flag.word ++ args) =
      (⟨(given ++ flags).map .flag, []⟩ : Given).read afterFile' args := by
  induction flags generalizing given afterFile with
  | nil => exact ⟨afterFile, by simp⟩
  | cons f flags ih =>
    have fresh : (⟨given.map .flag, []⟩ : Given).has (.flag f) = false := by
      rw [Bool.eq_false_iff, ne_eq, has_flags_iff]
      exact fun h => (List.nodup_append.mp distinct).2.2 f h f List.mem_cons_self rfl
    obtain ⟨afterFile', rest⟩ := ih (given ++ [f]) (by simpa using distinct) false
    refine ⟨afterFile', ?_⟩
    rw [List.map_cons, List.cons_append, read_word rfl fresh, add, fresh]
    simpa using rest

theorem addFiles_cons (g : Given) (file : String) (files : List String) :
    g.addFiles (file :: files) = (g.addFile file).addFiles files := rfl

theorem addFiles_of_has (h : g.has .files = true) :
    g.addFiles files = { g with files := g.files ++ files } := by
  induction files generalizing g with
  | nil => simp [addFiles]
  | cons file files ih =>
    have next : g.addFile file = { g with files := g.files ++ [file] } := by
      rw [addFile, add, h]
      rfl
    have rest : ({ g with files := g.files ++ [file] } : Given).has .files = true := h
    rw [addFiles_cons, next, ih rest]
    simp

theorem addFiles_flags (nonempty : files ≠ []) :
    (⟨flags.map .flag, []⟩ : Given).addFiles files = ofWords flags files := by
  cases files with
  | nil => exact absurd rfl nonempty
  | cons file files =>
    have first : (⟨flags.map .flag, []⟩ : Given).addFile file = ofWords flags [file] := by
      simp [addFile, add, has, ofWords]
    rw [addFiles_cons, first, addFiles_of_has (by simp [has, ofWords])]
    simp [ofWords]

/-- Options that only say how to repair exclude nothing and need nothing. -/
theorem fault?_ofWords (mild : ∀ f ∈ flags, f.IsMild) : (ofWords flags files).fault? = none := by
  have compatible : ∀ i ∈ (ofWords flags files).items, ∀ j ∈ (ofWords flags files).items,
      i.excludes j = false := by
    have items : ∀ i ∈ (ofWords flags files).items,
        i = .files ∨ i = .flag .dryRun ∨ i = .flag .noConfig := by
      intro i hi
      rcases List.mem_append.mp hi with hi | hi
      · obtain ⟨f, hf, rfl⟩ := List.mem_map.mp hi
        rcases mild f hf with rfl | rfl <;> simp
      · exact .inl (List.mem_singleton.mp hi)
    intro i hi j hj
    rcases items i hi with rfl | rfl | rfl <;> rcases items j hj with rfl | rfl | rfl <;> rfl
  have noConflict : (ofWords flags files).conflict? = none := by
    rw [conflict?, List.find?_eq_none]
    intro entry hentry
    obtain ⟨i, hi, rfl⟩ := List.mem_map.mp hentry
    have none : (ofWords flags files).items.filter i.excludes = [] :=
      List.filter_eq_nil_iff.mpr fun j hj => by simp [compatible i hi j hj]
    simp [none]
  have files : (ofWords flags files).has .files = true := by simp [has, ofWords]
  simp [fault?, noConflict, files]

theorem request_ofWords (mild : ∀ f ∈ flags, f.IsMild) : (ofWords flags files).request none =
    .repair files (flags.contains .dryRun) (flags.contains .noConfig) := by
  have has (f : Flag) : (ofWords flags files).has (.flag f) = flags.contains f := by
    rw [Bool.eq_iff_iff]
    simp [Given.has, ofWords]
  have strict {f : Flag} (h : ¬ f.IsMild) : flags.contains f = false := by
    rw [Bool.eq_false_iff, ne_eq, List.contains_iff_mem]
    exact fun hf => h (mild f hf)
  have init : flags.contains .init = false := strict (by simp [Flag.IsMild])
  have list : flags.contains .listRules = false := strict (by simp [Flag.IsMild])
  simp only [request, has, init, list, Bool.false_eq_true, if_false]
  rfl

end Given

/-- Options that only say how to repair, each given once, and files after two dashes ask for a repair of
    exactly these files, whatever they are called, unless one has no name. -/
theorem read_options_files (mild : ∀ f ∈ flags, f.IsMild) (distinct : flags.Nodup)
    (nonempty : files ≠ []) : Request.read (flags.map Flag.word ++ "--" :: files) =
      if files.contains "" then .error .emptyFile
      else .ok (.repair files (flags.contains .dryRun) (flags.contains .noConfig)) := by
  obtain ⟨afterFile, words⟩ := Given.read_words [] (by simpa using distinct) false ("--" :: files)
  rw [List.map_nil, List.nil_append] at words
  rw [Request.read, Given.nothing, words, Given.read_dashes, Given.addFiles_flags nonempty,
    Given.finishAlone, Given.finish, Given.fault?_ofWords mild, Given.request_ofWords mild]
  have items : (Given.ofWords flags files).items.isEmpty = false := by simp [Given.ofWords]
  rw [items]
  rfl

end LintRepair.CommandLine
