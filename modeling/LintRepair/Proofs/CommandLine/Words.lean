import LintRepair.Proofs.CommandLine.Reading

/-! # What is asked for has been given

Reading arguments gathers files and options, and asks for help, for the version, or for what has been
gathered. So the files of a request stand among the arguments, in their order, and so do its options.
-/

namespace LintRepair.CommandLine

variable {arg : String} {args files : List String} {f : Flag} {r : Request}

namespace Given

variable {g g' : Given} {command : Option SettingsCommand}

/-- Whether words add what comes after to what has been given before. Added files stand among the words
    in their order, and a flag is new only if its word is among them. -/
structure Extends (g g' : Given) (words : List String) : Prop where
  files : ∃ added, added.Sublist words ∧ g'.files = g.files ++ added
  flags : ∀ f, g'.has (.flag f) = true → g.has (.flag f) = true ∨ f.word ∈ words

theorem has_add_iff {i j : Item} : (g.add i).has j = true ↔ g.has j = true ∨ j = i := by
  rw [add]
  cases given : g.has i with
  | true =>
    refine ⟨.inl, fun h => h.elim id ?_⟩
    rintro rfl
    exact given
  | false => simp [has]

theorem extends_refl (g : Given) (args : List String) : g.Extends g args :=
  ⟨⟨[], List.nil_sublist args, (List.append_nil _).symm⟩, fun _ => .inl⟩

theorem Extends.addFile (h : (g.addFile arg).Extends g' args) : g.Extends g' (arg :: args) := by
  obtain ⟨added, sub, files⟩ := h.files
  refine ⟨⟨arg :: added, sub.cons_cons arg, ?_⟩, fun f given => ?_⟩
  · rw [files, Given.addFile, add]
    split <;> simp
  · cases h.flags f given with
    | inl before =>
      have before : (g.add .files).has (.flag f) = true := before
      exact .inl ((has_add_iff.mp before).resolve_right Item.noConfusion)
    | inr here => exact .inr (List.mem_cons_of_mem arg here)

theorem Extends.addFlag (h : (g.add (.flag f)).Extends g' args) : g.Extends g' (f.word :: args) := by
  obtain ⟨added, sub, files⟩ := h.files
  refine ⟨⟨added, sub.cons f.word, ?_⟩, fun other given => ?_⟩
  · rw [files, add]
    split <;> rfl
  · cases h.flags other given with
    | inl before =>
      refine (has_add_iff.mp before).imp id ?_
      rintro ⟨⟩
      exact List.mem_cons_self
    | inr here => exact .inr (List.mem_cons_of_mem f.word here)

theorem Extends.skip (h : g.Extends g' args) : g.Extends g' (arg :: args) := by
  obtain ⟨added, sub, files⟩ := h.files
  exact ⟨⟨added, sub.cons arg, files⟩, fun f given =>
    (h.flags f given).imp id (List.mem_cons_of_mem arg)⟩

theorem extends_addFiles (g : Given) (args : List String) : g.Extends (g.addFiles args) args := by
  induction args generalizing g with
  | nil => exact g.extends_refl []
  | cons arg args ih => exact (ih (g.addFile arg)).addFile

/-- Whether a request only informs, or asks for what has been given with words added. -/
inductive Asks (g : Given) (words : List String) : Request → Prop where
  | help (topic : Topic) : g.Asks words (.help topic)
  | version : g.Asks words .version
  | gathered {g' : Given} (command : Option SettingsCommand) (added : g.Extends g' words)
      (sound : g'.fault? = none) : g.Asks words (g'.request command)

theorem Asks.mono {words words' : List String} {g₀ : Given} (h : g.Asks words r)
    (step : ∀ g', g.Extends g' words → g₀.Extends g' words') : g₀.Asks words' r := by
  cases h with
  | help topic => exact .help topic
  | version => exact .version
  | gathered command added sound => exact .gathered command (step _ added) sound

theorem asks_of_finish (added : g.Extends g' args) (h : g'.finish command = .ok r) :
    g.Asks args r := by
  obtain ⟨sound, rfl⟩ := finish_eq_ok_iff.mp h
  exact .gathered command added sound

theorem asks_of_finishAlone (added : g.Extends g' args) (h : g'.finishAlone = .ok r) :
    g.Asks args r := by
  obtain ⟨-, -, sound, rfl⟩ := finishAlone_eq_ok_iff.mp h
  exact .gathered none added sound

theorem asks_of_takes {afterFile : Bool} (h : g.Takes afterFile args r) : g.Asks args r := by
  induction h with
  | done finished => exact asks_of_finishAlone (extends_refl _ []) finished
  | @inform _ _ _ _ r informs =>
    cases r with
    | help topic => exact .help topic
    | version => exact .version
    | _ => exact informs.elim
  | settings command called finished => exact asks_of_finish (extends_refl _ _) finished
  | @dashes g _ files _ finished => exact asks_of_finishAlone (g.extends_addFiles files).skip finished
  | file _ _ _ ih => exact ih.mono fun _ added => added.addFile
  | flag _ _ _ _ ih => exact ih.mono fun _ added => added.addFlag

end Given

theorem asks_of_read (h : Request.read args = .ok r) : Given.nothing.Asks args r :=
  Given.asks_of_takes (Given.takes_of_read h)

/-- The files to repair stand among the arguments, in their order. -/
theorem files_sublist_of_read {dryRun noConfig : Bool}
    (h : Request.read args = .ok (.repair files dryRun noConfig)) : files.Sublist args := by
  generalize asked : Request.repair files dryRun noConfig = r at h
  cases asks_of_read h with
  | help topic => cases asked
  | version => cases asked
  | gathered command added sound =>
    obtain ⟨given, sub, all⟩ := added.files
    obtain ⟨-, -, -, same, -⟩ := Given.request_eq_repair_iff.mp asked.symm
    rw [← same, all]
    exact sub

/-- A project is started on demand, and over its settings file only on demand. -/
theorem words_of_read_init {force : Bool} (h : Request.read args = .ok (.init force)) :
    Flag.init.word ∈ args ∧ (force = true → Flag.force.word ∈ args) := by
  generalize asked : Request.init force = r at h
  cases asks_of_read h with
  | help topic => cases asked
  | version => cases asked
  | gathered command added sound =>
    obtain ⟨init, overwrite⟩ := Given.request_eq_init asked.symm
    refine ⟨(added.flags _ init).resolve_left Bool.false_ne_true, ?_⟩
    rintro rfl
    exact (added.flags _ overwrite).resolve_left Bool.false_ne_true

end LintRepair.CommandLine
