import LintRepair.Proofs.Replacement.Pieces
import LintRepair.Proofs.Rule.Runs
import LintRepair.Proofs.Settings.Selection

/-! # What one pass removes

A text that is clean for the edit of a fixed rule holds no match of the rule. If the identifiers are
words, each edit of a pass keeps texts clean for the fixed edits before it, so the text after the pass
holds no match of any fixed rule that ran.
-/

namespace LintRepair

open LintRepair.Text LintRepair.Files LintRepair.Pattern LintRepair.Pattern.Core LintRepair.Replacement

namespace Rule

variable {rule : Rule} {rules : List Rule} {regex : Regex} {e : Edit} {es : List Edit}
  {text : List Char}

/-- The pattern of a rule has a meaning and no match in a text. -/
def Absent (rule : Rule) (text : List Char) : Prop :=
  ∃ e names, Regex.meaning? rule.pattern.toList = some (e, names) ∧ ∀ m, ¬ e.meaning.Matches text m

/-- Every match of a rule holds something that an edit seeks. -/
def Seeks (rule : Rule) (e : Edit) : Prop := ∀ text, e.Clean text → rule.Absent text

/-- A rule makes an edit and matches only where the edit seeks something. -/
structure Makes (rule : Rule) (e : Edit) : Prop where
  realizes : rule.Realizes e
  seeks : rule.Seeks e

/-- A rule matches only where an edit seeks something if what it replaces can be trimmed to that. -/
theorem seeks_of_trims {hits : Hits} (compiled : Regex.compile rule.pattern = .ok regex)
    (same : ∀ before old after new,
      CompiledRule.Hit ⟨rule, regex, none⟩ before old after new ↔ hits before old after new)
    (trims : Trims hits e.hits) : rule.Seeks e := by
  intro text clean
  obtain ⟨meant, names, described, rfl⟩ := Regex.compile_eq_ok compiled
  refine ⟨meant, names, described, ?_⟩
  rw [← meaning_ofExpr]
  rintro m ⟨before, read, after, rfl, -, -, reads⟩
  have hit := (same before read after _).mp ⟨m.slots, reads, rfl⟩
  obtain ⟨w, old, v, new, rfl, -, inner, -, -⟩ := trims.narrow _ _ _ _ hit
  obtain ⟨f, sought, here, rfl, -⟩ := inner
  exact clean f sought ⟨before ++ w, v ++ after, by simp, here⟩

theorem absent_of_clean (seeks : List.Forall₂ Seeks rules es) (clean : ∀ e ∈ es, e.Clean text) :
    ∀ rule ∈ rules, rule.Absent text := by
  induction seeks with
  | nil => simp
  | cons head _ ih =>
    obtain ⟨first, others⟩ := List.forall_mem_cons.mp clean
    exact List.forall_mem_cons.mpr ⟨head text first, ih others⟩

end Rule

namespace Catalog

open Pieces

theorem seeks_lookup {rule : Rule} {key : List Char} (compiled : Regex.compile rule.pattern =
      .ok ⟨sequence (.group 1 letters :: spelling ('[' :: key ++ "] ||".toList)), []⟩)
    (template : parts rule.replacement.toList =
      [].map .char ++ .group (.byNumber 1) :: "[name] ??".toList.map .char) : rule.Seeks (lookup key) :=
  Rule.seeks_of_trims compiled (fun _ _ _ _ => hit_wordThen_iff template) trims_lookup

theorem seeks_leading : List.Forall₂ Rule.Seeks leading leadingEdits := by
  obtain ⟨name, rest⟩ := List.cons.inj compile_leading
  obtain ⟨value, -⟩ := List.cons.inj rest
  exact .cons (seeks_lookup name (by decide)) (.cons (seeks_lookup value (by decide)) .nil)

theorem seeks_trailing : List.Forall₂ Rule.Seeks trailing trailingEdits := by
  obtain ⟨condition, rest⟩ := List.cons.inj compile_trailing
  obtain ⟨log, rest⟩ := List.cons.inj rest
  obtain ⟨unused, -⟩ := List.cons.inj rest
  refine .cons ?_ (.cons ?_ (.cons ?_ .nil))
  · exact Rule.seeks_of_trims condition (fun _ _ _ _ => hit_emptyCondition_iff (by decide)) (.refl _)
  · exact Rule.seeks_of_trims log (fun _ _ _ _ => hit_plain_iff (by decide)) (.refl _)
  · exact Rule.seeks_of_trims unused
      (fun _ _ _ _ => hit_markedWord_iff word_head?_unused (by decide)) trims_unusedPrefix

theorem makes_leading : List.Forall₂ Rule.Makes leading leadingEdits :=
  List.Forall₂.mp (fun _ _ => Rule.Makes.mk) realizes_leading seeks_leading

theorem makes_trailing : List.Forall₂ Rule.Makes trailing trailingEdits :=
  List.Forall₂.mp (fun _ _ => Rule.Makes.mk) realizes_trailing seeks_trailing

end Catalog

namespace Effective

variable {e : Effective} {p : Pipeline}

/-- Without extra rules a pipeline makes the edits of the fixed rules that are enabled, around some of
    those for identifiers. -/
theorem exists_parts_of_pipeline (none : e.rules = []) (h : e.pipeline = .ok p) :
    ∃ leading middle trailing, leading.Sublist Catalog.leadingEdits ∧
      middle.Sublist (Catalog.negations e.identifiers) ∧ trailing.Sublist Catalog.trailingEdits ∧
      List.Forall₂ Rule.Seeks ((Catalog.leading ++ Catalog.trailing).filter (e.isEnabled ·.id))
        (leading ++ trailing) ∧
      ∀ text : String, Edit.Pass (leading ++ middle ++ trailing) text.toList (p.apply text).toList := by
  obtain ⟨leading, subLeading, first⟩ :=
    exists_sublist_of_filter Catalog.makes_leading (e.isEnabled ·.id)
  obtain ⟨middle, subMiddle, second⟩ :=
    exists_sublist_of_filter (Catalog.realizes_nullChecks e.identifiers) (e.isEnabled ·.id)
  obtain ⟨trailing, subTrailing, third⟩ :=
    exists_sublist_of_filter Catalog.makes_trailing (e.isEnabled ·.id)
  refine ⟨leading, middle, trailing, subLeading, subMiddle, subTrailing, ?_, ?_⟩
  · rw [List.filter_append]
    exact List.rel_append (first.imp fun _ _ => Rule.Makes.seeks) (third.imp fun _ _ => Rule.Makes.seeks)
  · intro text
    have realizes := List.rel_append (List.rel_append (first.imp fun _ _ => Rule.Makes.realizes) second)
      (third.imp fun _ _ => Rule.Makes.realizes)
    have compiled := compileAll_of_pipeline none h
    simp only [enabledBuiltins, Catalog.rules, List.filter_append] at compiled
    rw [Pipeline.toList_apply]
    exact Rule.pass_of_compileAll realizes compiled (Document.ofString text)

/-- If the identifiers are words, a pass of the built-in rules leaves no match of a fixed rule that is
    enabled. -/
theorem pipeline_leaves_no_idiom (none : e.rules = [])
    (names : ∀ id ∈ e.identifiers, Catalog.IsName id.toList) (h : e.pipeline = .ok p) (text : String) :
    ∀ rule ∈ Catalog.leading ++ Catalog.trailing, e.Selects rule.id →
      rule.Absent (p.apply text).toList := by
  obtain ⟨leading, middle, trailing, subLeading, subMiddle, subTrailing, seeks, pass⟩ :=
    exists_parts_of_pipeline none h
  have clean : ∀ edit ∈ leading ++ trailing, edit.Clean (p.apply text).toList := by
    apply Catalog.clean_fixed_of_names subLeading subTrailing _ (pass text)
    intro edit hedit
    obtain ⟨id, hid, rfl⟩ := List.mem_map.mp (subMiddle.subset hedit)
    exact ⟨id.toList, names id hid, rfl⟩
  intro rule fixed selected
  apply Rule.absent_of_clean seeks clean
  exact List.mem_filter.mpr ⟨fixed, isEnabled_iff.mpr selected⟩

/-- An identifier that is the key of a lookup makes no lookup of its negation. -/
theorem pipeline_leaves_no_idiom_key :
    ∃ p, (⟨some ["name"], ["nullish-value"], []⟩ : Effective).pipeline = .ok p ∧
      ∀ rule ∈ Catalog.leading ++ Catalog.trailing, rule.id ≠ "nullish-value" →
        rule.Absent (p.apply "x[!name] || unusedif({})").toList := by
  obtain ⟨p, hp⟩ := exists_pipeline (e := ⟨some ["name"], ["nullish-value"], []⟩) rfl (by decide)
    (by decide)
  refine ⟨p, hp, fun rule fixed other => ?_⟩
  have word : Catalog.IsName "name".toList := ⟨by decide, word_of_all (by decide)⟩
  apply pipeline_leaves_no_idiom rfl (by simpa [identifiers] using word) hp _ rule fixed
  simp [Selects, other, Catalog.familyId]

end Effective

end LintRepair
