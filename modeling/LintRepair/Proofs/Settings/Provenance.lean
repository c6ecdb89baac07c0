import LintRepair.Proofs.Settings.Discovery
import LintRepair.Proofs.Settings.Selection

/-! # Where the rules of a pipeline come from

Settings files keep clear of the ids of the built-in rules. So the rules without a source are those with
such an id, and a rule of a settings file runs unless a settings file lists its very id as disabled.
-/

namespace LintRepair

open LintRepair.Files LintRepair.Pattern

namespace Catalog

variable {identifiers : List String} {rule : Rule} {id : String}

theorem isReserved_of_isFamilyMember (h : isFamilyMember id = true) : isReserved id = true := by
  simp [isReserved, h]

theorem isFamilyMember_nullCheck (identifier : String) :
    isFamilyMember (nullCheck identifier).id = true := by
  have parts : (nullCheck identifier).id.toList = (familyId ++ ":").toList ++ identifier.toList :=
    String.toList_append
  rw [isFamilyMember, parts]
  exact List.isPrefixOf_iff_prefix.mpr (List.prefix_append _ _)

/-- Every built-in rule has an id that is kept for it. -/
theorem isReserved_of_mem_rules (h : rule ∈ rules identifiers) : isReserved rule.id = true := by
  have fixed (h : rule ∈ leading ++ trailing) : isReserved rule.id = true := by
    have listed : (leading ++ trailing).any (·.id == rule.id) = true :=
      List.any_eq_true.mpr ⟨rule, h, beq_self_eq_true rule.id⟩
    rw [isReserved, listed, Bool.or_true]
  cases List.mem_append.mp h with
  | inl h =>
    cases List.mem_append.mp h with
    | inl h => exact fixed (List.mem_append_left _ h)
    | inr h =>
      obtain ⟨identifier, -, rfl⟩ := List.mem_map.mp h
      exact isReserved_of_isFamilyMember (isFamilyMember_nullCheck identifier)
  | inr h => exact fixed (List.mem_append_right _ h)

end Catalog

namespace Settings

variable {t : FileTree} {cwd : Location} {path : FilePath} {text : String} {s : Settings} {rule : Rule}

theorem fault?_of_parse (h : parse text path = .ok s) : s.fault? = none := by
  rw [parse] at h
  cases described : (Toml.Document.read? text.toList).bind ofEntries? with
  | none =>
    rw [described] at h
    cases h
  | some found =>
    rw [described] at h
    cases fault : found.fault? with
    | some f => simp [fault] at h
    | none =>
      obtain rfl : found = s := by simpa [fault] using h
      exact fault

theorem fault?_of_load (h : load t cwd path = .ok s) : s.fault? = none := by
  rw [load] at h
  split at h
  · cases h
  · split at h
    · cases h
    · exact fault?_of_parse h

/-- Settings without a fault keep clear of the ids of built-in rules. -/
theorem not_isReserved_of_fault? (sound : s.fault? = none) (h : rule ∈ s.rules) :
    Catalog.isReserved rule.id = false := by
  rw [fault?] at sound
  split at sound
  · cases sound
  · have none := List.findSome?_eq_none_iff.mp sound rule h
    rw [ruleFault?] at none
    split at none
    · cases none
    · simpa using none

end Settings

namespace Effective

variable {e : Effective} {p : Pipeline} {id : String} {known added : List String}
  {files : List LoadedSettings}

theorem mem_union_iff : id ∈ union known added ↔ id ∈ known ∨ id ∈ added := by
  rw [union]
  induction added generalizing known with
  | nil => simp
  | cons first added ih =>
    rw [List.foldl_cons, ih]
    by_cases there : first ∈ known
    · rw [if_pos (List.contains_iff_mem.mpr there), List.mem_cons]
      refine ⟨fun h => h.imp_right .inr, fun h => ?_⟩
      rcases h with h | rfl | h
      · exact .inl h
      · exact .inl there
      · exact .inr h
    · rw [if_neg (mt List.contains_iff_mem.mp there)]
      simp [or_assoc]

/-- An id is disabled if a settings file lists it. -/
theorem mem_disabledRules_ofLoaded :
    id ∈ (ofLoaded files).disabledRules ↔ ∃ l ∈ files, id ∈ l.settings.disabledRules := by
  have step (known : List String) :
      id ∈ files.foldl (fun known l => union known l.settings.disabledRules) known ↔
        id ∈ known ∨ ∃ l ∈ files, id ∈ l.settings.disabledRules := by
    induction files generalizing known with
    | nil => simp
    | cons l files ih => simp [ih, mem_union_iff, or_assoc]
  rw [ofLoaded, step]
  simp

/-- The family is no way to disable a rule that is not of it. -/
theorem selects_iff_of_not_isReserved (h : Catalog.isReserved id = false) :
    e.Selects id ↔ id ∉ e.disabledRules := by
  refine and_iff_left fun _ => Bool.eq_false_iff.mpr fun member => ?_
  rw [Catalog.isReserved_of_isFamilyMember member] at h
  cases h

/-- A pipeline has the rules that the settings select, each compiled. -/
theorem rules_of_pipeline (h : e.pipeline = .ok p) :
    (∀ r ∈ p, Regex.compile r.rule.pattern = .ok r.regex) ∧
      p.map (fun r => (r.rule, r.source)) = e.selected := by
  have gives := e.gives_pipeline
  rw [h] at gives
  cases gives with
  | pipeline _ compiled =>
    rw [← List.forall₂_eq_eq_eq, List.forall₂_map_left_iff, ← List.forall₂_and_left]
    refine compiled.flip.imp fun r found here => ?_
    obtain ⟨rule, source, regex⟩ := here
    exact ⟨rule ▸ regex, Prod.ext rule source⟩

/-- Settings give a pipeline when their entries are known and all rules have a compiled form. -/
theorem exists_pipeline_of_compiles (known : ∀ entry ∈ e.disabledRules, e.Known entry)
    (compiles : ∀ r ∈ e.candidates, ∃ regex, Regex.compile r.1.pattern = .ok regex) :
    ∃ p, e.pipeline = .ok p := by
  cases given : e.pipeline with
  | ok p => exact ⟨p, rfl⟩
  | error fault =>
    rw [pipeline_of_known known] at given
    obtain ⟨before, r, after, split, -, fails⟩ := mapM_eq_error_iff.mp given
    have selected : r ∈ e.selected := split ▸ List.mem_append_right before List.mem_cons_self
    have candidate : r ∈ e.candidates := (List.mem_filter.mp selected).1
    obtain ⟨c, compiled⟩ := compiles_iff.mpr (compiles r candidate)
    rw [compiled] at fails
    cases fails

end Effective

namespace Workspace

variable {w : Workspace} {start path : FilePath} {files : List LoadedSettings} {l : LoadedSettings}
  {e : Effective} {p : Pipeline}

theorem settings?_of_usableAt? (h : w.usableAt? path = some l) :
    w.settings? l.path = some (.ok l.settings) := by
  rw [usableAt?] at h
  split at h
  · rename_i s found
    cases h
    exact found
  · cases h

/-- What the search loads is what the files hold. -/
theorem settings?_of_mem_cascade (h : l ∈ (w.cascade start).loaded) :
    w.settings? l.path = some (.ok l.settings) := by
  rw [cascade, search_eq, withHome_eq] at h
  cases List.mem_append.mp h with
  | inl h =>
    obtain ⟨dir, -, usable⟩ := List.mem_filterMap.mp h
    exact settings?_of_usableAt? usable
  | inr h =>
    rw [homeLoaded] at h
    split at h
    · cases h
    · split at h
      · cases h
      · exact settings?_of_usableAt? (Option.mem_toList.mp h)

theorem cascade_of_loaded (h : w.loaded start = .ok files) : files = (w.cascade start).loaded := by
  rw [loaded] at h
  split at h
  · cases h
    rfl
  · cases h

/-- Settings files that have been loaded keep clear of the ids of built-in rules. -/
theorem not_isReserved_of_loaded (h : w.loaded start = .ok files) :
    ∀ r ∈ (Effective.ofLoaded files).rules, Catalog.isReserved r.rule.id = false := by
  intro r hr
  obtain ⟨l, hl, hr⟩ := List.mem_flatMap.mp hr
  obtain ⟨rule, hrule, rfl⟩ := List.mem_map.mp hr
  rw [List.mem_reverse, cascade_of_loaded h] at hl
  have held := settings?_of_mem_cascade hl
  rw [settings?] at held
  split at held
  · exact Settings.not_isReserved_of_fault? (Settings.fault?_of_load (Option.some.inj held)) hrule
  · cases held

end Workspace

/-- A rule with its source, unless it is built in. -/
def CompiledRule.sourced? (r : CompiledRule) : Option SourcedRule :=
  r.source.map fun path => ⟨r.rule, path⟩

theorem CompiledRule.sourced?_eq_some_iff {r : CompiledRule} {s : SourcedRule} :
    r.sourced? = some s ↔ r.rule = s.rule ∧ r.source = some s.source := by
  obtain ⟨rule, regex, source⟩ := r
  obtain ⟨rule', source'⟩ := s
  cases source <;> simp [sourced?]

namespace Effective

variable {e : Effective} {p : Pipeline} {files : List LoadedSettings}

/-- The rules with a source are the extra rules that are enabled, in their order. -/
theorem sourced_of_pipeline (h : e.pipeline = .ok p) :
    p.filterMap CompiledRule.sourced? = e.enabledExtras := by
  have pairs : p.filterMap CompiledRule.sourced? =
      (p.map fun r => (r.rule, r.source)).filterMap fun r =>
        r.2.map fun path => (⟨r.1, path⟩ : SourcedRule) := by
    rw [List.filterMap_map]
    rfl
  rw [pairs, (rules_of_pipeline h).2, selected_eq, List.filterMap_append, List.filterMap_map,
    List.filterMap_map]
  simp

/-- As long as no extra rule has the id of a built-in one, those run whose ids no file disables. -/
theorem enabledExtras_of_clear
    (clear : ∀ r ∈ (ofLoaded files).rules, Catalog.isReserved r.rule.id = false) :
    (ofLoaded files).enabledExtras = (files.reverse.flatMap LoadedSettings.sourced).filter fun r =>
      ∀ l ∈ files, r.rule.id ∉ l.settings.disabledRules := by
  refine List.filter_congr fun r hr => ?_
  rw [Bool.eq_iff_iff, isEnabled_iff, selects_iff_of_not_isReserved (clear r hr),
    mem_disabledRules_ofLoaded, decide_eq_true_iff]
  simp

end Effective

/-- Where the rules of a pipeline come from that has been built from settings files. -/
structure Traceable (w : Workspace) (files : List LoadedSettings) (p : Pipeline) : Prop where
  builtin : ∀ r ∈ p, r.source = none ↔ Catalog.isReserved r.id = true
  builtinFirst : p.Pairwise fun before after => after.source = none → before.source = none
  /-- Every rule runs as its pattern says. -/
  compiled : ∀ r ∈ p, Regex.compile r.rule.pattern = .ok r.regex
  /-- A rule with a source is written in the file that is its source. -/
  written : ∀ r ∈ p, ∀ path, r.source = some path →
    ∃ s, ⟨path, s⟩ ∈ files ∧ w.settings? path = some (.ok s) ∧ r.rule ∈ s.rules
  /-- A rule of a file is missing if a file lists its very id, and only then. -/
  missing : ∀ l ∈ files, ∀ rule ∈ l.settings.rules,
    (¬ ∃ r ∈ p, r.rule = rule ∧ r.source = some l.path) ↔
      ∃ other ∈ files, rule.id ∈ other.settings.disabledRules
  /-- All others are there as often and in the order in which they are written, outer files first. -/
  extras : p.filterMap CompiledRule.sourced? =
    (files.reverse.flatMap LoadedSettings.sourced).filter fun r =>
      ∀ l ∈ files, r.rule.id ∉ l.settings.disabledRules

section Traceable

variable {w : Workspace} {start : FilePath} {files : List LoadedSettings} {e : Effective}
  {p : Pipeline}

theorem source_eq_none_iff (clear : ∀ r ∈ e.rules, Catalog.isReserved r.rule.id = false)
    (compiled : e.pipeline = .ok p) :
    ∀ r ∈ p, r.source = none ↔ Catalog.isReserved r.id = true := by
  intro r hr
  have listed : (r.rule, r.source) ∈ e.selected := by
    rw [← (Effective.rules_of_pipeline compiled).2]
    exact List.mem_map.mpr ⟨r, hr, rfl⟩
  rw [Effective.selected_eq] at listed
  cases List.mem_append.mp listed with
  | inl h =>
    obtain ⟨rule, enabled, same⟩ := List.mem_map.mp h
    obtain ⟨rfl, source⟩ := Prod.mk.inj same
    exact iff_of_true source.symm (Catalog.isReserved_of_mem_rules (List.mem_filter.mp enabled).1)
  | inr h =>
    obtain ⟨extra, enabled, same⟩ := List.mem_map.mp h
    obtain ⟨rule, source⟩ := Prod.mk.inj same
    refine iff_of_false (by simp [← source]) ?_
    rw [CompiledRule.id, ← rule, clear extra (List.mem_filter.mp enabled).1]
    exact Bool.false_ne_true

theorem builtin_before_extra (compiled : e.pipeline = .ok p) :
    p.Pairwise fun before after => after.source = none → before.source = none := by
  have pairs : (p.map fun r => (r.rule, r.source)).Pairwise fun before after =>
      after.2 = none → before.2 = none := by
    rw [(Effective.rules_of_pipeline compiled).2, Effective.selected_eq, List.pairwise_append]
    refine ⟨?_, ?_, ?_⟩
    · exact List.pairwise_map.mpr (List.pairwise_of_forall fun _ _ _ => rfl)
    · exact List.pairwise_map.mpr (List.pairwise_of_forall nofun)
    · intro before hbefore after _ _
      obtain ⟨rule, -, rfl⟩ := List.mem_map.mp hbefore
      rfl
  exact List.pairwise_map.mp pairs

/-- The rules with a source are those of the files that no file disables. -/
theorem extras_of_loaded (loaded : w.loaded start = .ok files)
    (compiled : (Effective.ofLoaded files).pipeline = .ok p) : p.filterMap CompiledRule.sourced? =
      (files.reverse.flatMap LoadedSettings.sourced).filter fun r =>
        ∀ l ∈ files, r.rule.id ∉ l.settings.disabledRules := by
  rw [Effective.sourced_of_pipeline compiled,
    Effective.enabledExtras_of_clear (Workspace.not_isReserved_of_loaded loaded)]

theorem written_of_source (loaded : w.loaded start = .ok files)
    (compiled : (Effective.ofLoaded files).pipeline = .ok p) {r : CompiledRule} (hr : r ∈ p)
    {path : FilePath} (source : r.source = some path) :
    ∃ s, ⟨path, s⟩ ∈ files ∧ w.settings? path = some (.ok s) ∧ r.rule ∈ s.rules := by
  have listed : ⟨r.rule, path⟩ ∈ p.filterMap CompiledRule.sourced? :=
    List.mem_filterMap.mpr ⟨r, hr, CompiledRule.sourced?_eq_some_iff.mpr ⟨rfl, source⟩⟩
  rw [extras_of_loaded loaded compiled] at listed
  obtain ⟨l, hl, here⟩ := List.mem_flatMap.mp (List.mem_filter.mp listed).1
  obtain ⟨rule, hrule, same⟩ := List.mem_map.mp here
  obtain ⟨rfl, rfl⟩ := SourcedRule.mk.inj same
  rw [List.mem_reverse] at hl
  exact ⟨l.settings, hl,
    Workspace.settings?_of_mem_cascade (Workspace.cascade_of_loaded loaded ▸ hl), hrule⟩

theorem missing_iff_disabled (loaded : w.loaded start = .ok files)
    (compiled : (Effective.ofLoaded files).pipeline = .ok p) {l : LoadedSettings} (hl : l ∈ files)
    {rule : Rule} (hrule : rule ∈ l.settings.rules) :
    (¬ ∃ r ∈ p, r.rule = rule ∧ r.source = some l.path) ↔
      ∃ other ∈ files, rule.id ∈ other.settings.disabledRules := by
  have written : ⟨rule, l.path⟩ ∈ files.reverse.flatMap LoadedSettings.sourced :=
    List.mem_flatMap.mpr ⟨l, List.mem_reverse.mpr hl, List.mem_map.mpr ⟨rule, hrule, rfl⟩⟩
  have runs : (∃ r ∈ p, r.rule = rule ∧ r.source = some l.path) ↔
      ⟨rule, l.path⟩ ∈ p.filterMap CompiledRule.sourced? := by
    simp only [List.mem_filterMap, CompiledRule.sourced?_eq_some_iff]
  rw [runs, extras_of_loaded loaded compiled, List.mem_filter, and_iff_right written,
    decide_eq_true_iff]
  simp

theorem ofLoaded_of_effective (h : w.effective start = .ok e) :
    ∃ files, w.loaded start = .ok files ∧ e = .ofLoaded files := by
  rw [Workspace.effective] at h
  cases loaded : w.loaded start with
  | error f =>
    rw [loaded] at h
    cases h
  | ok files =>
    rw [loaded] at h
    cases h
    exact ⟨files, rfl, rfl⟩

/-- Every rule of a pipeline from settings files can be traced to the catalogue or to one of the files,
    and every rule of the files to the pipeline or to an entry that disables it. -/
theorem rules_traceable (effective : w.effective start = .ok e) (compiled : e.pipeline = .ok p) :
    ∃ files, w.loaded start = .ok files ∧ e = .ofLoaded files ∧ Traceable w files p := by
  obtain ⟨files, loaded, rfl⟩ := ofLoaded_of_effective effective
  refine ⟨files, loaded, rfl, ?_⟩
  exact {
    builtin := source_eq_none_iff (Workspace.not_isReserved_of_loaded loaded) compiled
    builtinFirst := builtin_before_extra compiled
    compiled := (Effective.rules_of_pipeline compiled).1
    written := fun _ hr _ source => written_of_source loaded compiled hr source
    missing := fun _ hl _ hrule => missing_iff_disabled loaded compiled hl hrule
    extras := extras_of_loaded loaded compiled }

end Traceable

namespace Workspace

/-- The settings of a directory that disable the family of built-in rules and a rule of the directory
    above. -/
def innerSettings : Settings := ⟨false, none, ["nullable-check", "muted"], [⟨"kept", "e", "f"⟩]⟩

/-- The settings of the directory above, with a rule whose id only begins like the name of the family. -/
def outerSettings : Settings :=
  ⟨false, none, [], [⟨"muted", "a", "b"⟩, ⟨"nullable-checker", "c", "d"⟩]⟩

def nested : Workspace :=
  ⟨⟨[([settingsFile.toList],
        .file "rules=[['muted','a','b'],['nullable-checker','c','d']]".toUTF8 .full),
      (["sub".toList, settingsFile.toList],
        .file "disabled-rules=['nullable-check','muted']\nrules=[['kept','e','f']]".toUTF8 .full)]⟩,
    ["sub".toList], none⟩

/-- The settings files that count in the directory. -/
def nestedFiles : List LoadedSettings :=
  [⟨⟨"/sub/.lintfix.toml"⟩, innerSettings⟩, ⟨⟨"/.lintfix.toml"⟩, outerSettings⟩]

theorem loaded_nested : nested.loaded ⟨"/sub"⟩ = .ok nestedFiles := by
  decide +kernel

theorem exists_pipeline_nested : ∃ p, (Effective.ofLoaded nestedFiles).pipeline = .ok p := by
  have extras : ∀ r ∈ (Effective.ofLoaded nestedFiles).rules,
      (Regex.compile r.rule.pattern).isOk = true := by
    decide +kernel
  have small : ∀ id ∈ (Effective.ofLoaded nestedFiles).identifiers,
      (Catalog.negationExpr id.toList).cost ≤ Expr.costLimit := by
    decide +kernel
  have known : ∀ entry ∈ (Effective.ofLoaded nestedFiles).disabledRules,
      (Effective.ofLoaded nestedFiles).knows entry = true := by
    decide +kernel
  refine Effective.exists_pipeline_of_compiles
    (fun entry hentry => Effective.knows_iff.mp (known entry hentry)) fun r hr => ?_
  cases List.mem_append.mp hr with
  | inl h =>
    obtain ⟨rule, hrule, rfl⟩ := List.mem_map.mp h
    exact Catalog.exists_compile_rules small rule hrule
  | inr h =>
    obtain ⟨extra, hextra, rfl⟩ := List.mem_map.mp h
    have compiles := extras extra hextra
    cases compiled : Regex.compile extra.rule.pattern with
    | ok regex => exact ⟨regex, rfl⟩
    | error cause =>
      rw [compiled] at compiles
      cases compiles

end Workspace

/-- An entry reaches a rule of an outer file, but the family does not reach a rule that is not of it. -/
theorem rules_traceable_nested : ∃ p,
    Workspace.nested.effective ⟨"/sub"⟩ = .ok (.ofLoaded Workspace.nestedFiles) ∧
      (Effective.ofLoaded Workspace.nestedFiles).pipeline = .ok p ∧
      Traceable Workspace.nested Workspace.nestedFiles p ∧
      p.filterMap CompiledRule.sourced? =
        [⟨⟨"nullable-checker", "c", "d"⟩, ⟨"/.lintfix.toml"⟩⟩,
          ⟨⟨"kept", "e", "f"⟩, ⟨"/sub/.lintfix.toml"⟩⟩] := by
  have effective : Workspace.nested.effective ⟨"/sub"⟩ = .ok (.ofLoaded Workspace.nestedFiles) := by
    rw [Workspace.effective, Workspace.loaded_nested]
    rfl
  obtain ⟨p, compiled⟩ := Workspace.exists_pipeline_nested
  obtain ⟨files, loaded, -, traceable⟩ := rules_traceable effective compiled
  obtain rfl := Except.ok.inj (Workspace.loaded_nested.symm.trans loaded)
  refine ⟨p, effective, compiled, traceable, ?_⟩
  rw [traceable.extras]
  decide +kernel

end LintRepair
