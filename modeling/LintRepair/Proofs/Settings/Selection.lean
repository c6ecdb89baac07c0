import LintRepair.Proofs.Rule.Passes

/-! # Which rules the settings select

The rules of a pipeline are those that no disabled entry selects, the built-in ones first. Entries are
looked at before patterns, and only the patterns of selected rules count.
-/

namespace LintRepair

open LintRepair.Files LintRepair.Pattern

theorem Rule.compile_eq_error_iff {rule : Rule} {source : Option FilePath} {fault : Fault} :
    rule.compile source = .error fault ↔ ∃ cause, Regex.compile rule.pattern = .error cause ∧
      fault = .invalidPattern rule.id rule.pattern cause := by
  rw [Rule.compile]
  cases Regex.compile rule.pattern with
  | ok regex => simp
  | error cause => simp [eq_comm]

namespace Effective

variable {e e' : Effective} {id entry : String} {p : Pipeline}

/-- Whether an entry means something: a built-in rule, listed or not, or an extra rule. -/
def Known (e : Effective) (entry : String) : Prop :=
  Catalog.isReserved entry = true ∨ ∃ r ∈ e.rules, r.rule.id = entry

/-- Whether the rule with an id runs: no entry is its id, and the family is disabled only if the rule is
    not of the family. -/
def Selects (e : Effective) (id : String) : Prop :=
  id ∉ e.disabledRules ∧ (Catalog.familyId ∈ e.disabledRules → Catalog.isFamilyMember id = false)

instance : DecidablePred e.Selects := fun id =>
  inferInstanceAs (Decidable (id ∉ e.disabledRules ∧ (_ → _)))

/-- All rules in the order in which they would run, each with its source. -/
def candidates (e : Effective) : List (Rule × Option FilePath) :=
  (Catalog.rules e.identifiers).map (·, none) ++ e.rules.map fun r => (r.rule, some r.source)

/-- The rules that run. -/
def selected (e : Effective) : List (Rule × Option FilePath) :=
  e.candidates.filter fun r => e.Selects r.1.id

theorem knows_iff : e.knows entry = true ↔ e.Known entry := by
  simp [knows, Known]

theorem isEnabled_iff : e.isEnabled id = true ↔ e.Selects id := by
  simp only [isEnabled, Selects, Catalog.selects, Bool.not_eq_true', List.any_eq_false,
    Bool.or_eq_true, Bool.and_eq_true, beq_iff_eq, not_or, not_and]
  constructor
  · intro h
    refine ⟨fun hid => (h id hid).1 rfl, fun hfamily => ?_⟩
    simpa using (h _ hfamily).2 rfl
  · rintro ⟨hid, hfamily⟩ entry hentry
    refine ⟨fun same => hid (same ▸ hentry), fun same => ?_⟩
    simpa using hfamily (same ▸ hentry)

theorem selected_eq (e : Effective) : e.selected =
    e.enabledBuiltins.map (·, none) ++ e.enabledExtras.map fun r => (r.rule, some r.source) := by
  have enabled (id : String) : decide (e.Selects id) = e.isEnabled id := by
    rw [Bool.eq_iff_iff, decide_eq_true_iff, isEnabled_iff]
  simp only [selected, candidates, List.filter_append, List.filter_map, enabledBuiltins,
    enabledExtras, Function.comp_def, enabled]

/-- When all entries are known, the selected rules are compiled in order. -/
theorem pipeline_of_known (known : ∀ entry ∈ e.disabledRules, e.Known entry) :
    e.pipeline = e.selected.mapM fun r => r.1.compile r.2 := by
  have all : e.disabledRules.find? (!e.knows ·) = none := by
    rw [List.find?_eq_none]
    intro entry hentry
    simp [knows_iff.mpr (known entry hentry)]
  simp only [pipeline, all, selected_eq, List.mapM_append, List.mapM_map, Function.comp_def,
    Rule.compileAll]

theorem pipeline_of_unknown {before after : List String}
    (split : e.disabledRules = before ++ entry :: after) (known : ∀ b ∈ before, e.Known b)
    (unknown : ¬ e.Known entry) : e.pipeline = .error (.unknownRule entry) := by
  have first : e.disabledRules.find? (!e.knows ·) = some entry := by
    rw [List.find?_eq_some_iff_append]
    refine ⟨by simpa [← knows_iff] using unknown, before, after, split, fun b hb => ?_⟩
    simp [knows_iff.mpr (known b hb)]
  rw [pipeline, first]

/-- What settings give: the fault of the first entry that is not known, or else that of the first
    selected rule without a compiled form, or else the selected rules in order. -/
inductive Gives (e : Effective) : Except Fault Pipeline → Prop where
  | unknownEntry {before after : List String} {entry : String}
      (split : e.disabledRules = before ++ entry :: after) (known : ∀ b ∈ before, e.Known b)
      (unknown : ¬ e.Known entry) : e.Gives (.error (.unknownRule entry))
  | invalidPattern {before after : List (Rule × Option FilePath)} {rule : Rule}
      {source : Option FilePath} {cause : CompileFault}
      (known : ∀ entry ∈ e.disabledRules, e.Known entry)
      (split : e.selected = before ++ (rule, source) :: after)
      (compile : ∀ r ∈ before, ∃ regex, Regex.compile r.1.pattern = .ok regex)
      (fails : Regex.compile rule.pattern = .error cause) :
      e.Gives (.error (.invalidPattern rule.id rule.pattern cause))
  | pipeline {p : Pipeline} (known : ∀ entry ∈ e.disabledRules, e.Known entry)
      (compiled : List.Forall₂
        (fun r c => c.rule = r.1 ∧ c.source = r.2 ∧ Regex.compile r.1.pattern = .ok c.regex)
        e.selected p) : e.Gives (.ok p)

theorem compile_eq_ok_iff_parts {r : Rule × Option FilePath} {c : CompiledRule} :
    r.1.compile r.2 = .ok c ↔
      c.rule = r.1 ∧ c.source = r.2 ∧ Regex.compile r.1.pattern = .ok c.regex := by
  rw [Rule.compile_eq_ok_iff]
  constructor
  · rintro ⟨regex, compiled, rfl⟩
    exact ⟨rfl, rfl, compiled⟩
  · rintro ⟨rule, source, compiled⟩
    refine ⟨c.regex, compiled, ?_⟩
    rw [← rule, ← source]

theorem compiles_iff {r : Rule × Option FilePath} :
    (∃ c, r.1.compile r.2 = .ok c) ↔ ∃ regex, Regex.compile r.1.pattern = .ok regex := by
  simp only [Rule.compile_eq_ok_iff]
  exact ⟨fun ⟨_, regex, compiled, _⟩ => ⟨regex, compiled⟩,
    fun ⟨regex, compiled⟩ => ⟨_, regex, compiled, rfl⟩⟩

theorem exists_first_unknown (h : ¬ ∀ entry ∈ e.disabledRules, e.Known entry) :
    ∃ before entry after, e.disabledRules = before ++ entry :: after ∧
      (∀ b ∈ before, e.Known b) ∧ ¬ e.Known entry := by
  cases first : e.disabledRules.find? (!e.knows ·) with
  | none =>
    refine (h fun entry hentry => knows_iff.mp ?_).elim
    simpa using List.find?_eq_none.mp first entry hentry
  | some entry =>
    obtain ⟨unknown, before, after, split, known⟩ := List.find?_eq_some_iff_append.mp first
    refine ⟨before, entry, after, split, fun b hb => knows_iff.mp ?_, fun known => ?_⟩
    · simpa using known b hb
    · rw [knows_iff.mpr known] at unknown
      cases unknown

theorem gives_pipeline (e : Effective) : e.Gives e.pipeline := by
  by_cases known : ∀ entry ∈ e.disabledRules, e.Known entry
  · rw [pipeline_of_known known]
    cases result : e.selected.mapM fun r => r.1.compile r.2 with
    | ok p =>
      refine .pipeline known ?_
      exact (mapM_eq_ok_iff.mp result).imp fun _ _ => compile_eq_ok_iff_parts.mp
    | error fault =>
      obtain ⟨before, r, after, split, oks, fails⟩ := mapM_eq_error_iff.mp result
      obtain ⟨cause, invalid, rfl⟩ := Rule.compile_eq_error_iff.mp fails
      exact .invalidPattern known split (fun r hr => compiles_iff.mp (oks r hr)) invalid
  · obtain ⟨before, entry, after, split, first, unknown⟩ := exists_first_unknown known
    rw [pipeline_of_unknown split first unknown]
    exact .unknownEntry split first unknown

theorem Gives.congr {result : Except Fault Pipeline} (h : e.Gives result)
    (entries : e'.disabledRules = e.disabledRules) (known : ∀ entry, e'.Known entry ↔ e.Known entry)
    (selected : e'.selected = e.selected) : e'.Gives result := by
  cases h with
  | unknownEntry split before unknown =>
    exact .unknownEntry (entries.trans split) (fun b hb => (known b).mpr (before b hb))
      fun h => unknown ((known _).mp h)
  | invalidPattern all split compile fails =>
    exact .invalidPattern (fun b hb => (known b).mpr (all b (entries ▸ hb))) (selected.trans split)
      compile fails
  | pipeline all compiled =>
    exact .pipeline (fun b hb => (known b).mpr (all b (entries ▸ hb))) (selected.symm ▸ compiled)

/-- Whether settings differ from others only in what rules say that do not run. -/
structure SameButUnselected (e e' : Effective) : Prop where
  identifiers : e'.nullableIdentifiers = e.nullableIdentifiers
  entries : e'.disabledRules = e.disabledRules
  rules : List.Forall₂ (fun r' r : SourcedRule =>
    r'.rule.id = r.rule.id ∧ (e.Selects r.rule.id → r' = r)) e'.rules e.rules

namespace SameButUnselected

theorem selects (h : e.SameButUnselected e') : e'.Selects = e.Selects := by
  funext id
  rw [Selects, Selects, h.entries]

theorem known (h : e.SameButUnselected e') (entry : String) : e'.Known entry ↔ e.Known entry := by
  have ids : e'.rules.map (·.rule.id) = e.rules.map (·.rule.id) := by
    rw [← List.forall₂_eq_eq_eq, List.forall₂_map_left_iff, List.forall₂_map_right_iff]
    exact h.rules.imp fun _ _ same => same.1
  have listed (e : Effective) : e.Known entry ↔
      Catalog.isReserved entry = true ∨ entry ∈ e.rules.map (·.rule.id) := by
    rw [Known, List.mem_map]
  rw [listed, listed, ids]

theorem filter_eq {rules' rules : List SourcedRule} (h : List.Forall₂ (fun r' r : SourcedRule =>
      r'.rule.id = r.rule.id ∧ (e.Selects r.rule.id → r' = r)) rules' rules) :
    rules'.filter (fun r => e.Selects r.rule.id) = rules.filter fun r => e.Selects r.rule.id := by
  induction h with
  | nil => rfl
  | cons head _ ih =>
    rw [List.filter_cons, List.filter_cons, head.1, ih]
    split
    · rename_i runs
      rw [head.2 (of_decide_eq_true runs)]
    · rfl

theorem selected (h : e.SameButUnselected e') : e'.selected = e.selected := by
  have extras := filter_eq h.rules
  have builtins : e'.identifiers = e.identifiers := by
    rw [Effective.identifiers, Effective.identifiers, h.identifiers]
  have enabled (id : String) : decide (e'.Selects id) = decide (e.Selects id) := by
    simp only [h.selects]
  simp only [Effective.selected, candidates, List.filter_append, List.filter_map, Function.comp_def,
    enabled, builtins, extras]

end SameButUnselected

end Effective

end LintRepair
