import LintRepair.Proofs.Settings.Provenance
import Mathlib.Algebra.GroupWithZero.Nat
import Mathlib.Data.List.Induction

/-! # Settings of files in a row

The settings of a list of files come from those of its parts: what holds for the inner files comes
first, and what the outer ones add is found behind it, or in front of it in the case of rules.
-/

namespace LintRepair.Effective

open LintRepair.Files

variable {known added xs ys : List String} {inner outer files : List LoadedSettings} {id : String}

/-- Settings of inner files that go before settings of outer ones. A list of identifiers counts as set
    when it is empty, too. -/
def above (inner outer : Effective) : Effective where
  nullableIdentifiers := match inner.nullableIdentifiers with
    | some identifiers => some identifiers
    | none => outer.nullableIdentifiers
  disabledRules := inner.disabledRules ++ outer.disabledRules.filter (· ∉ inner.disabledRules)
  rules := outer.rules ++ inner.rules

theorem union_append : union known (xs ++ ys) = union (union known xs) ys := List.foldl_append

theorem union_concat : union known (added ++ [id]) =
    if id ∈ known ∨ id ∈ added then union known added else union known added ++ [id] := by
  have there : (union known added).contains id = true ↔ id ∈ known ∨ id ∈ added := by
    rw [List.contains_iff_mem, mem_union_iff]
  rw [union_append]
  simp only [union, List.foldl_cons, List.foldl_nil]
  exact if_congr there rfl rfl

/-- What is added stands behind what was there. -/
theorem union_eq_append (known added : List String) :
    union known added = known ++ (union [] added).filter (· ∉ known) := by
  induction added using List.reverseRecOn with
  | nil => simp [union]
  | append_singleton added id ih =>
    rw [union_concat, union_concat, ih]
    by_cases hknown : id ∈ known <;> by_cases hadded : id ∈ added <;> simp [hknown, hadded]

/-- Every entry is kept where it stands first. -/
theorem union_nil_eq (added : List String) : union [] added = added.eraseDups := by
  induction added using List.reverseRecOn with
  | nil => rfl
  | append_singleton added id ih =>
    rw [union_concat, ih, List.eraseDups_append]
    by_cases hadded : id ∈ added <;> simp [hadded, List.cons_removeAll, List.eraseDups_cons]

theorem nodup_union (h : known.Nodup) : (union known added).Nodup := by
  induction added using List.reverseRecOn with
  | nil => exact h
  | append_singleton added id ih =>
    rw [union_concat]
    split
    · exact ih
    · rename_i fresh
      rw [← mem_union_iff] at fresh
      refine List.nodup_append.mpr ⟨ih, by simp, ?_⟩
      intro other there last hlast same
      obtain rfl := List.mem_singleton.mp hlast
      exact fresh (same ▸ there)

/-- The entries of several files are those of one file that lists them all. -/
theorem disabledRules_ofLoaded (files : List LoadedSettings) :
    (ofLoaded files).disabledRules = union [] (files.flatMap (·.settings.disabledRules)) := by
  have step (known : List String) :
      files.foldl (fun known l => union known l.settings.disabledRules) known =
        union known (files.flatMap (·.settings.disabledRules)) := by
    induction files generalizing known with
    | nil => rfl
    | cons l files ih => rw [List.foldl_cons, List.flatMap_cons, union_append, ih]
  exact step []

theorem nullableIdentifiers_append : (ofLoaded (inner ++ outer)).nullableIdentifiers =
    ((ofLoaded inner).above (ofLoaded outer)).nullableIdentifiers := by
  simp only [ofLoaded, above, List.findSome?_append]
  cases inner.findSome? (·.settings.nullableIdentifiers) <;> rfl

theorem disabledRules_append : (ofLoaded (inner ++ outer)).disabledRules =
    ((ofLoaded inner).above (ofLoaded outer)).disabledRules := by
  simp only [above, disabledRules_ofLoaded, List.flatMap_append, union_append]
  exact union_eq_append _ _

theorem rules_append : (ofLoaded (inner ++ outer)).rules =
    (ofLoaded outer).rules ++ (ofLoaded inner).rules := by
  simp only [ofLoaded, List.reverse_append, List.flatMap_append]

/-- The settings of files in a row are those of the first ones before those of the others. -/
theorem ofLoaded_append (inner outer : List LoadedSettings) :
    ofLoaded (inner ++ outer) = (ofLoaded inner).above (ofLoaded outer) := by
  rw [ofLoaded, above, mk.injEq]
  exact ⟨nullableIdentifiers_append, disabledRules_append, rules_append⟩

/-- What the settings of files taken together have of each file. -/
structure Collects (files : List LoadedSettings) (e : Effective) : Prop where
  /-- No entry that disables rules is listed twice. -/
  nodup : e.disabledRules.Nodup
  entries : ∀ id, id ∈ e.disabledRules ↔ ∃ l ∈ files, id ∈ l.settings.disabledRules
  /-- An entry stands where the innermost file that lists it has it first. -/
  order : e.disabledRules = (files.flatMap (·.settings.disabledRules)).eraseDups
  /-- A rule comes from a file as often as the file has it. -/
  rules : ∀ r, e.rules.count r = (files.map fun l =>
    if l.path = r.source then l.settings.rules.count r.rule else 0).sum
  /-- The rules of a file stand together and in their order. -/
  together : ∀ inner l outer, files = inner ++ l :: outer →
    ∃ before after, e.rules = before ++ l.settings.rules.map (⟨·, l.path⟩) ++ after

theorem count_sourced (l : LoadedSettings) (r : SourcedRule) :
    l.sourced.count r = if l.path = r.source then l.settings.rules.count r.rule else 0 := by
  obtain ⟨rule, source⟩ := r
  rw [LoadedSettings.sourced, List.count_eq_countP, List.countP_map, List.count_eq_countP]
  by_cases same : l.path = source
  · rw [if_pos same]
    exact List.countP_congr fun written _ => by simp [same]
  · rw [if_neg same]
    exact List.countP_eq_zero.mpr fun written _ => by simp [same]

theorem collects_ofLoaded (files : List LoadedSettings) : Collects files (ofLoaded files) where
  nodup := by
    rw [disabledRules_ofLoaded]
    exact nodup_union List.nodup_nil
  entries _ := mem_disabledRules_ofLoaded
  order := by rw [disabledRules_ofLoaded, union_nil_eq]
  rules r := by
    induction files with
    | nil => rfl
    | cons l files ih =>
      have first : (ofLoaded [l]).rules = l.sourced := by simp [ofLoaded]
      rw [← List.singleton_append, rules_append, first, List.count_append, ih, count_sourced,
        List.singleton_append, List.map_cons, List.sum_cons, Nat.add_comm]
  together inner l outer split := by
    refine ⟨(ofLoaded outer).rules, (ofLoaded inner).rules, ?_⟩
    rw [split, rules_append, ← List.singleton_append, rules_append]
    simp [ofLoaded, LoadedSettings.sourced]

/-- Taking files together turns lists in a row into settings that go before others, and it loses nothing
    that a file says, whatever files there are. -/
theorem ofLoaded_merges :
    (∀ inner outer, ofLoaded (inner ++ outer) = (ofLoaded inner).above (ofLoaded outer)) ∧
      ∀ files, Collects files (ofLoaded files) :=
  ⟨ofLoaded_append, collects_ofLoaded⟩

end LintRepair.Effective
