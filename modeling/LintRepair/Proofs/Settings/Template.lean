import LintRepair.Proofs.Rule.DefaultRules
import LintRepair.Proofs.Settings.Provenance
import LintRepair.Settings.Layout

/-! # The file with which a project starts

The template is a settings file: it makes its directory the root and lists the default identifiers.
Taken alone it describes the built-in pipeline, and that pipeline leaves the template as it is.
-/

namespace LintRepair

open LintRepair.Files LintRepair.Replacement

namespace Settings

variable {css : List (List Char)}

/-- What the template says. -/
def initial : Settings where
  root := true
  nullableIdentifiers := some Catalog.defaultIdentifiers
  disabledRules := []
  rules := []

theorem flatMap_spelled {ls : List String}
    (spelled : List.Forall₂ (fun line cs => line = String.ofList cs) ls css) :
    ls.flatMap (fun line => line.toList ++ ['\n']) = css.flatMap (· ++ ['\n']) := by
  induction spelled with
  | nil => rfl
  | cons head _ ih => rw [List.flatMap_cons, List.flatMap_cons, ih, head, String.toList_ofList]

theorem toList_template
    (spelled : List.Forall₂ (fun line cs => line = String.ofList cs) templateLines css) :
    template.toList = css.flatMap (· ++ ['\n']) := by
  rw [template, String.toList_join, List.flatMap_map, ← flatMap_spelled spelled]
  simp

/-- What the template says and what does not occur in it, character by character. -/
theorem exists_template_chars : ∃ cs, template.toList = cs ∧
    (Toml.Document.read? cs).bind ofEntries? = some initial ∧ '|' ∉ cs ∧ '{' ∉ cs ∧
    (∀ word ∈ ["console.log(".toList, "unused".toList], ¬ word <:+: cs) ∧
    ∀ id ∈ Catalog.defaultIdentifiers, ¬ '!' :: id.toList <:+: cs := by
  have identifiers : "nullable-identifiers = " ++
      String.ofList (quotedList Catalog.defaultIdentifiers) =
        String.ofList ("nullable-identifiers = ".toList ++ quotedList Catalog.defaultIdentifiers) := by
    rw [String.ofList_append, String.ofList_toList]
  -- Each line but that of the identifiers is a literal.
  have spelled := toList_template (.cons rfl (.cons rfl (.cons rfl (.cons rfl (.cons rfl
    (.cons identifiers (.cons rfl (.cons rfl (.cons rfl (.cons rfl (.cons rfl (.cons rfl
    (.cons rfl (.cons rfl (.cons rfl .nil)))))))))))))))
  exact ⟨_, spelled, by decide +kernel, by decide +kernel, by decide +kernel, by decide +kernel,
    by decide +kernel⟩

theorem parse_template (path : FilePath) : parse template path = .ok initial := by
  obtain ⟨cs, chars, described, -⟩ := exists_template_chars
  rw [parse, chars, described]
  rfl

end Settings

namespace Catalog

variable {builtin : Pipeline}

/-- The built-in pipeline leaves the template as it is. -/
theorem apply_template (compiled : pipeline = .ok builtin) :
    builtin.apply Settings.template = Settings.template := by
  obtain ⟨p, compiled', pass⟩ := exists_default_pipeline
  obtain rfl : p = builtin := by simpa [compiled'] using compiled
  obtain ⟨cs, chars, -, noBar, noBrace, noWord, noMark⟩ := Settings.exists_template_chars
  have made := pass Settings.template
  rw [chars] at made
  have fixed : ∀ e ∈ leadingEdits ++ trailingEdits, e.Clean cs := by
    intro e he f sought occurs
    have inside := occurs.within
    rcases List.mem_append.mp he with he | he
    · obtain ⟨key, -, rfl⟩ := List.mem_map.mp he
      obtain rfl : f = _ := sought
      exact noBar (inside.subset (by simp))
    · simp only [trailingEdits, List.mem_cons, List.not_mem_nil, or_false] at he
      rcases he with rfl | rfl | rfl
      · obtain ⟨a, b, c, d, -, rfl⟩ := sought
        exact noBrace (inside.subset (by simp [Phrase.plain]))
      · obtain rfl : f = _ := sought
        exact noWord _ List.mem_cons_self inside
      · obtain rfl : f = _ := sought
        exact noWord _ (List.mem_cons_of_mem _ List.mem_cons_self) inside
  have capped : Capped 0 cs := capped_of_not_infix noMark
  have same := eq_of_capped made capped fixed
  rw [← String.toList_inj, same, chars]

end Catalog

namespace Effective

variable {files : List LoadedSettings}

/-- Files that all say what the template says describe the built-in pipeline. -/
theorem pipeline_of_initial (nonempty : files ≠ [])
    (initial : ∀ l ∈ files, l.settings = Settings.initial) :
    (ofLoaded files).pipeline = Catalog.pipeline := by
  have identifiers : (ofLoaded files).identifiers = Catalog.defaultIdentifiers := by
    cases files with
    | nil => exact absurd rfl nonempty
    | cons l files =>
      simp [Effective.identifiers, ofLoaded, initial l List.mem_cons_self, Settings.initial]
  have disabled : (ofLoaded files).disabledRules = [] := by
    refine List.eq_nil_iff_forall_not_mem.mpr fun id listed => ?_
    obtain ⟨l, hl, listed⟩ := mem_disabledRules_ofLoaded.mp listed
    rw [initial l hl] at listed
    exact List.not_mem_nil listed
  have rules : (ofLoaded files).rules = [] := by
    rw [ofLoaded, List.flatMap_eq_nil_iff]
    intro l hl
    rw [LoadedSettings.sourced, initial l (List.mem_reverse.mp hl)]
    rfl
  have builtins : (ofLoaded files).enabledBuiltins = Catalog.defaultRules := by
    rw [enabledBuiltins, identifiers, List.filter_eq_self.mpr]
    · rfl
    · intro rule _
      simp [isEnabled, disabled]
  have extras : (ofLoaded files).enabledExtras = [] := by
    rw [enabledExtras, rules]
    rfl
  rw [pipeline, disabled, builtins, extras, Catalog.pipeline]
  cases Rule.compileAll Catalog.defaultRules <;>
    simp [bind, Except.bind, pure, Except.pure]

end Effective

end LintRepair
