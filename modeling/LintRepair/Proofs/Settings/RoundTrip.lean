import LintRepair.Proofs.Toml.Lines
import LintRepair.Proofs.Toml.Tables

/-! # Settings are read back

Any settings can be written down. What is read from the text is the settings themselves if they are
sound, and otherwise what is wrong with them.
-/

namespace LintRepair.Settings

open LintRepair.Files LintRepair.Toml

variable {s : Settings} {rule : Rule} {rules : List Rule} {fault : Fault}
  {result : Except Fault Settings}

/-! The entries of what is written -/

/-- A list of texts as a value. -/
def textsValue (texts : List String) : Value := .array (texts.map fun text => .text text.toList)

def ruleEntries (rule : Rule) : Entries :=
  [(idName, .text rule.id.toList), (patternName, .text rule.pattern.toList),
    (replacementName, .text rule.replacement.toList)]

/-- The entries of settings in front of their rules. -/
def plainEntries (s : Settings) : Entries :=
  [(rootName, .bool s.root)] ++
    (match s.nullableIdentifiers with
      | some identifiers => [(identifiersName, textsValue identifiers)]
      | none => []) ++
    [(disabledName, textsValue s.disabledRules)]

def entries (s : Settings) : Entries :=
  s.plainEntries ++ listedEntry rulesName (s.rules.map ruleEntries)

/-! The parts of what is written -/

def plainParts (s : Settings) : List (List Char) :=
  [line rootName (boolText s.root)] ++
    (match s.nullableIdentifiers with
      | some identifiers => [line identifiersName (quotedList identifiers)]
      | none => []) ++
    [line disabledName (quotedList s.disabledRules)]

def ruleParts (rule : Rule) : List (List Char) :=
  ["\n[[rules]]\n".toList, line idName (quote rule.id.toList),
    line patternName (quote rule.pattern.toList), line replacementName (quote rule.replacement.toList)]

theorem flatten_ruleParts (rule : Rule) : (ruleParts rule).flatten = renderRule rule := by
  unfold ruleParts renderRule
  generalize "\n[[rules]]\n".toList = header
  simp only [List.flatten_cons, List.flatten_nil, List.append_nil, List.append_assoc]

theorem flatten_parts (s : Settings) :
    (s.plainParts ++ s.rules.flatMap ruleParts).flatten = s.render.toList := by
  have tables : (s.rules.flatMap ruleParts).flatten = s.rules.flatMap renderRule := by
    induction s.rules with
    | nil => rfl
    | cons rule rules ih =>
      rw [List.flatMap_cons, List.flatten_append, ih, flatten_ruleParts, List.flatMap_cons]
  rw [List.flatten_append, tables, render, String.toList_ofList]
  unfold plainParts
  cases s.nullableIdentifiers <;>
    simp only [List.flatten_append, List.flatten_cons, List.flatten_nil, List.append_nil]

theorem standsFor_texts {name : List Char} (bare : IsBareName name) (texts : List String) :
    StandsFor (line name (quotedList texts)) (.pair (.ofName name) (textsValue texts)) :=
  standsFor_line bare (spells_quotedList _ texts)

theorem standsFor_text {name : List Char} (bare : IsBareName name) (text : String) :
    StandsFor (line name (quote text.toList)) (.pair (.ofName name) (.text text.toList)) :=
  standsFor_line bare (spells_quote depthLimit text.toList)

theorem standsFor_plainParts (s : Settings) :
    List.Forall₂ StandsFor s.plainParts (pairsOf s.plainEntries) := by
  have bareRoot : IsBareName rootName := by decide
  have bareIdentifiers : IsBareName identifiersName := by decide
  have bareDisabled : IsBareName disabledName := by decide
  have root := standsFor_line bareRoot (spells_bool depthLimit s.root)
  have disabled := standsFor_texts bareDisabled s.disabledRules
  unfold plainParts plainEntries
  cases s.nullableIdentifiers with
  | none => exact .cons root (.cons disabled .nil)
  | some identifiers =>
    exact .cons root (.cons (standsFor_texts bareIdentifiers identifiers) (.cons disabled .nil))

theorem standsFor_ruleParts (rules : List Rule) :
    List.Forall₂ StandsFor (rules.flatMap ruleParts) (listedOf rulesName (rules.map ruleEntries)) := by
  have bareRules : IsBareName rulesName := by decide
  have bareId : IsBareName idName := by decide
  have barePattern : IsBareName patternName := by decide
  have bareReplacement : IsBareName replacementName := by decide
  induction rules with
  | nil => exact .nil
  | cons rule rules ih =>
    have id := standsFor_text bareId rule.id
    have pattern := standsFor_text barePattern rule.pattern
    have replacement := standsFor_text bareReplacement rule.replacement
    exact .cons (standsFor_listed bareRules) (.cons id (.cons pattern (.cons replacement ih)))

theorem names_plainEntries (s : Settings) :
    (s.plainEntries.map Prod.fst).Sublist [rootName, identifiersName, disabledName] := by
  unfold plainEntries
  cases s.nullableIdentifiers with
  | none => exact .cons_cons _ (.cons _ (.cons_cons _ .slnil))
  | some identifiers => exact List.Sublist.refl _

/-- What is written has the entries that it was written from. -/
theorem read?_render (s : Settings) : Document.read? s.render.toList = some s.entries := by
  have noMark : s.render.toList.head? ≠ some '\ufeff' := by
    have first : s.render.toList.head? = some 'r' := by
      rw [render, String.toList_ofList]
      rfl
    rw [first]
    decide
  have distinct : (s.plainEntries.map Prod.fst).Nodup :=
    (by decide : [rootName, identifiersName, disabledName].Nodup).sublist (names_plainEntries s)
  have fresh : rulesName ∉ s.plainEntries.map Prod.fst := fun listed =>
    absurd ((names_plainEntries s).subset listed) (by decide)
  have each : ∀ t ∈ s.rules.map ruleEntries, (t.map Prod.fst).Nodup := by
    intro t ht
    obtain ⟨rule, -, rfl⟩ := List.mem_map.mp ht
    show [idName, patternName, replacementName].Nodup
    decide
  rw [← flatten_parts] at noMark ⊢
  rw [Document.read?_of_standsFor
    (List.rel_append (standsFor_plainParts s) (standsFor_ruleParts s.rules)) noMark]
  exact ofStatements?_listed distinct fresh each

/-! The settings that the entries describe -/

theorem mapM_map_eq_some {α β : Type} {write : α → β} {read? : β → Option α}
    (h : ∀ x, read? (write x) = some x) (xs : List α) : (xs.map write).mapM read? = some xs := by
  induction xs with
  | nil => rfl
  | cons x xs ih => simp [List.mapM_cons, h, ih]

theorem textsOf?_textsValue (texts : List String) : textsOf? (textsValue texts) = some texts := by
  apply mapM_map_eq_some
  intro text
  rw [textOf?, String.ofList_toList]

theorem ruleOf?_ruleEntries (rule : Rule) : ruleOf? (.table (ruleEntries rule)) = some rule := by
  have id : (ruleEntries rule).lookup idName = some (.text rule.id.toList) := rfl
  have pattern : (ruleEntries rule).lookup patternName = some (.text rule.pattern.toList) := rfl
  have replacement : (ruleEntries rule).lookup replacementName =
      some (.text rule.replacement.toList) := rfl
  have representable : Value.isRepresentableEntries (ruleEntries rule) = true := rfl
  simp [ruleOf?, id, pattern, replacement, representable, textOf?]

theorem rulesOf?_ruleEntries (rules : List Rule) :
    rulesOf? (.array ((rules.map ruleEntries).map .table)) = some rules := by
  rw [List.map_map]
  exact mapM_map_eq_some ruleOf?_ruleEntries rules

theorem entry?_identifiers (s : Settings) :
    entry? s.entries identifiersName none (fun v => (textsOf? v).map some) =
      some s.nullableIdentifiers := by
  have found : s.entries.lookup identifiersName = s.nullableIdentifiers.map textsValue := by
    unfold entries plainEntries
    cases s.nullableIdentifiers <;> cases s.rules <;> rfl
  unfold entry?
  rw [found]
  cases s.nullableIdentifiers with
  | none => rfl
  | some identifiers => simp [textsOf?_textsValue]

theorem entry?_disabled (s : Settings) :
    entry? s.entries disabledName [] textsOf? = some s.disabledRules := by
  have found : s.entries.lookup disabledName = some (textsValue s.disabledRules) := by
    unfold entries plainEntries
    cases s.nullableIdentifiers <;> rfl
  unfold entry?
  rw [found]
  exact textsOf?_textsValue s.disabledRules

theorem entry?_rules (s : Settings) : entry? s.entries rulesName [] rulesOf? = some s.rules := by
  have found : s.entries.lookup rulesName =
      (listedEntry rulesName (s.rules.map ruleEntries)).lookup rulesName := by
    unfold entries plainEntries
    cases s.nullableIdentifiers <;> rfl
  unfold entry?
  rw [found]
  cases s.rules with
  | nil => rfl
  | cons rule rules => exact rulesOf?_ruleEntries (rule :: rules)

/-- The entries that settings are written as describe them. -/
theorem ofEntries?_entries (s : Settings) : ofEntries? s.entries = some s := by
  have root : entry? s.entries rootName false boolOf? = some s.root := rfl
  have known : s.entries.filter (!isKnownName ·.1) = [] := by
    unfold entries plainEntries
    cases s.nullableIdentifiers <;> cases s.rules <;> rfl
  simp [ofEntries?, root, entry?_identifiers, entry?_disabled, entry?_rules, known,
    Value.isRepresentableEntries]

/-! What is read back -/

/-- Settings with no fault, or their fault. -/
def checked (s : Settings) : Except Fault Settings :=
  match s.fault? with
  | some fault => .error fault
  | none => .ok s

/-- Settings that are written are read as themselves and then checked. -/
theorem parse_render (s : Settings) (path : FilePath) : parse s.render path = s.checked := by
  have described : (Document.read? s.render.toList).bind ofEntries? = some s := by
    rw [read?_render, Option.bind_some, ofEntries?_entries]
  unfold parse
  rw [described]
  rfl

/-- The identifiers that are listed, if any are, are not empty. -/
def Named (s : Settings) : Prop :=
  ∀ identifiers, s.nullableIdentifiers = some identifiers → "" ∉ identifiers

/-- A rule that settings may have: its id is not blank and not kept for a built-in rule. -/
structure Allowed (rule : Rule) : Prop where
  named : isBlank rule.id = false
  own : Catalog.isReserved rule.id = false

/-- What is wrong with a rule: its id is blank, or else kept for a built-in rule. -/
inductive Wrong (rule : Rule) : Fault → Prop where
  | blank (h : isBlank rule.id = true) : Wrong rule (.emptyIdentifier "rules.id")
  | reserved (named : isBlank rule.id = false) (h : Catalog.isReserved rule.id = true) :
      Wrong rule (.reservedRule rule.id)

/-- What settings that were written are read back as: the fault of an empty identifier, or else that of
    the first rule with one, or else the settings themselves. -/
inductive ReadBack (s : Settings) : Except Fault Settings → Prop where
  | emptyIdentifier {identifiers : List String} (listed : s.nullableIdentifiers = some identifiers)
      (empty : "" ∈ identifiers) : ReadBack s (.error (.emptyIdentifier "nullable-identifiers"))
  | wrongRule {before after : List Rule} {rule : Rule} {fault : Fault} (named : s.Named)
      (split : s.rules = before ++ rule :: after) (allowed : ∀ r ∈ before, Allowed r)
      (wrong : Wrong rule fault) : ReadBack s (.error fault)
  | sound (named : s.Named) (allowed : ∀ rule ∈ s.rules, Allowed rule) : ReadBack s (.ok s)

theorem ruleFault?_eq_none_iff : ruleFault? rule = none ↔ Allowed rule := by
  unfold ruleFault?
  constructor
  · intro h
    split at h
    · cases h
    · split at h
      · cases h
      · rename_i named own
        exact ⟨by simpa using named, by simpa using own⟩
  · intro h
    simp [h.named, h.own]

theorem ruleFault?_eq_some_iff : ruleFault? rule = some fault ↔ Wrong rule fault := by
  unfold ruleFault?
  constructor
  · intro h
    split at h
    case isTrue blank =>
      obtain rfl := Option.some.inj h
      exact .blank blank
    case isFalse named =>
      split at h
      case isTrue reserved =>
        obtain rfl := Option.some.inj h
        exact .reserved (by simpa using named) reserved
      case isFalse => cases h
  · intro h
    cases h with
    | blank h => simp [h]
    | reserved named h => simp [named, h]

theorem fault?_of_empty {identifiers : List String} (listed : s.nullableIdentifiers = some identifiers)
    (empty : "" ∈ identifiers) : s.fault? = some (.emptyIdentifier "nullable-identifiers") := by
  simp [fault?, listed, empty]

theorem fault?_of_named (named : s.Named) : s.fault? = s.rules.findSome? ruleFault? := by
  unfold Named at named
  unfold fault?
  cases listed : s.nullableIdentifiers with
  | none => rfl
  | some identifiers =>
    have none := named identifiers listed
    simp [none]

theorem ReadBack.checked_eq (h : s.ReadBack result) : s.checked = result := by
  unfold checked
  cases h with
  | emptyIdentifier listed empty => rw [fault?_of_empty listed empty]
  | wrongRule named split allowed wrong =>
    have first := List.findSome?_eq_some_iff.mpr ⟨_, _, _, split, ruleFault?_eq_some_iff.mpr wrong,
      fun r hr => ruleFault?_eq_none_iff.mpr (allowed r hr)⟩
    rw [fault?_of_named named, first]
  | sound named allowed =>
    have none := List.findSome?_eq_none_iff.mpr fun r hr => ruleFault?_eq_none_iff.mpr (allowed r hr)
    rw [fault?_of_named named, none]

theorem readBack_checked (s : Settings) : s.ReadBack s.checked := by
  unfold checked
  by_cases named : s.Named
  · rw [fault?_of_named named]
    cases first : s.rules.findSome? ruleFault? with
    | none =>
      rw [List.findSome?_eq_none_iff] at first
      exact .sound named fun rule hrule => ruleFault?_eq_none_iff.mp (first rule hrule)
    | some fault =>
      obtain ⟨before, rule, after, split, wrong, allowed⟩ := List.findSome?_eq_some_iff.mp first
      exact .wrongRule named split (fun r hr => ruleFault?_eq_none_iff.mp (allowed r hr))
        (ruleFault?_eq_some_iff.mp wrong)
  · unfold Named at named
    push Not at named
    obtain ⟨identifiers, listed, empty⟩ := named
    rw [fault?_of_empty listed empty]
    exact .emptyIdentifier listed empty

/-- Settings that are written are read back as themselves if they are sound, and otherwise what is wrong
    with them is said: an empty identifier, or else the first rule with a fault. -/
theorem parse_render_iff (s : Settings) (path : FilePath) (result : Except Fault Settings) :
    parse s.render path = result ↔ s.ReadBack result := by
  rw [parse_render]
  constructor
  · intro h
    subst h
    exact readBack_checked s
  · exact ReadBack.checked_eq

end LintRepair.Settings
