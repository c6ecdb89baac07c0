import LintRepair.Proofs.Rule.Interaction
import LintRepair.Settings.Effective

/-! # Pipelines as passes of edits

Rules are compiled one after the other, up to the first that has no compiled form. A pipeline of
built-in rules makes the edits of the enabled rules in their order.
-/

namespace LintRepair

open LintRepair.Pattern LintRepair.Replacement

section Traversal

variable {α β ε : Type} {f : α → Except ε β}

theorem mapM_eq_ok_iff {xs : List α} {ys : List β} :
    xs.mapM f = .ok ys ↔ List.Forall₂ (fun x y => f x = .ok y) xs ys := by
  induction xs generalizing ys with
  | nil => cases ys <;> simp [pure, Except.pure]
  | cons x xs ih =>
    rw [List.mapM_cons]
    cases head : f x with
    | error fault => cases ys <;> simp [bind, Except.bind, head]
    | ok y =>
      cases tail : xs.mapM f with
      | error fault => cases ys <;> simp [bind, Except.bind, ← ih, tail, head]
      | ok rest => cases ys <;> simp [bind, Except.bind, pure, Except.pure, ← ih, tail, head]

/-- The first failure is that of the whole list. -/
theorem mapM_eq_error_iff {xs : List α} {fault : ε} : xs.mapM f = .error fault ↔
    ∃ before x after, xs = before ++ x :: after ∧ (∀ b ∈ before, ∃ y, f b = .ok y) ∧
      f x = .error fault := by
  induction xs with
  | nil => simp [pure, Except.pure]
  | cons x xs ih =>
    rw [List.mapM_cons]
    cases head : f x with
    | error first =>
      constructor
      · intro h
        obtain rfl : first = fault := by simpa [bind, Except.bind] using h
        exact ⟨[], x, xs, rfl, by simp, head⟩
      · rintro ⟨before, y, after, split, oks, fails⟩
        cases before with
        | nil =>
          obtain ⟨rfl, -⟩ := List.cons.inj split
          simpa [bind, Except.bind, head] using fails
        | cons b before =>
          obtain ⟨rfl, -⟩ := List.cons.inj split
          obtain ⟨y, hy⟩ := oks x List.mem_cons_self
          rw [head] at hy
          cases hy
    | ok y =>
      have tail : (do let rest ← xs.mapM f; pure (y :: rest) : Except ε (List β)) = .error fault ↔
          xs.mapM f = .error fault := by
        cases xs.mapM f <;> simp [bind, Except.bind, pure, Except.pure]
      refine tail.trans (ih.trans ?_)
      constructor
      · rintro ⟨before, z, after, rfl, oks, fails⟩
        exact ⟨x :: before, z, after, rfl, List.forall_mem_cons.mpr ⟨⟨y, head⟩, oks⟩, fails⟩
      · rintro ⟨before, z, after, split, oks, fails⟩
        cases before with
        | nil =>
          obtain ⟨rfl, -⟩ := List.cons.inj split
          rw [head] at fails
          cases fails
        | cons b before =>
          obtain ⟨rfl, rfl⟩ := List.cons.inj split
          exact ⟨before, z, after, rfl, (List.forall_mem_cons.mp oks).2, fails⟩

end Traversal

variable {es : List Edit} {p : Pipeline}

namespace Rule

variable {rules : List Rule}

theorem compileAll_cons_eq_ok {rule : Rule} (h : compileAll (rule :: rules) = .ok p) :
    ∃ r rs, rule.compile none = .ok r ∧ compileAll rules = .ok rs ∧ p = r :: rs := by
  cases mapM_eq_ok_iff.mp h with
  | cons head tail => exact ⟨_, _, head, mapM_eq_ok_iff.mpr tail, rfl⟩

theorem exists_compileAll (h : ∀ rule ∈ rules, ∃ regex, Regex.compile rule.pattern = .ok regex) :
    ∃ p, compileAll rules = .ok p := by
  induction rules with
  | nil => exact ⟨[], rfl⟩
  | cons rule rules ih =>
    obtain ⟨⟨regex, head⟩, tail⟩ := List.forall_mem_cons.mp h
    obtain ⟨p, hp⟩ := ih tail
    have first : rule.compile none = .ok ⟨rule, regex, none⟩ := compile_eq_ok_iff.mpr ⟨regex, head, rfl⟩
    exact ⟨⟨rule, regex, none⟩ :: p, mapM_eq_ok_iff.mpr (.cons first (mapM_eq_ok_iff.mp hp))⟩

/-- Rules that make edits make a pass of them when compiled. -/
theorem pass_of_compileAll (realizes : List.Forall₂ Realizes rules es)
    (compiled : compileAll rules = .ok p) (d : Document) :
    Edit.Pass es d.toList (p.run d).toList := by
  induction realizes generalizing p d with
  | nil =>
    obtain rfl : p = [] := by simpa [compileAll, pure, Except.pure, eq_comm] using compiled
    exact .nil
  | cons head _ ih =>
    obtain ⟨r, rs, hr, hrs, rfl⟩ := compileAll_cons_eq_ok compiled
    exact .cons (head none r hr d) (ih hrs (r.apply d))

end Rule

theorem exists_sublist_of_filter {α β : Type} {R : α → β → Prop} {as : List α} {bs : List β}
    (h : List.Forall₂ R as bs) (q : α → Bool) :
    ∃ bs', bs'.Sublist bs ∧ List.Forall₂ R (as.filter q) bs' := by
  induction h with
  | nil => exact ⟨[], .slnil, .nil⟩
  | @cons a b as bs head _ ih =>
    obtain ⟨bs', sub, rest⟩ := ih
    cases hq : q a with
    | true =>
      rw [List.filter_cons_of_pos hq]
      exact ⟨b :: bs', sub.cons_cons b, .cons head rest⟩
    | false =>
      rw [List.filter_cons_of_neg (by simp [hq])]
      exact ⟨bs', sub.cons b, rest⟩

theorem Pipeline.toList_apply (p : Pipeline) (text : String) :
    (p.apply text).toList = (p.run (Document.ofString text)).toList := by
  simp [apply, Document.toString]

namespace Catalog

/-- The edits of the rules for identifiers. -/
def negations (identifiers : List String) : List Edit :=
  identifiers.map fun id => negation id.toList

/-- All edits of the built-in rules. -/
def edits (identifiers : List String) : List Edit :=
  leadingEdits ++ negations identifiers ++ trailingEdits

theorem realizes_nullChecks (identifiers : List String) :
    List.Forall₂ Rule.Realizes (identifiers.map nullCheck) (negations identifiers) := by
  rw [negations, List.forall₂_map_left_iff, List.forall₂_map_right_iff, List.forall₂_same]
  intro id _
  exact realizes_nullCheck id

theorem realizes_rules (identifiers : List String) :
    List.Forall₂ Rule.Realizes (rules identifiers) (edits identifiers) :=
  List.rel_append (List.rel_append realizes_leading (realizes_nullChecks identifiers)) realizes_trailing

/-- The built-in rules have a compiled form unless an identifier is too long for one. -/
theorem exists_compile_rules {identifiers : List String}
    (small : ∀ id ∈ identifiers, (negationExpr id.toList).cost ≤ Expr.costLimit) :
    ∀ rule ∈ rules identifiers, ∃ regex, Regex.compile rule.pattern = .ok regex := by
  intro rule h
  cases List.mem_append.mp h with
  | inl h =>
    cases List.mem_append.mp h with
    | inl h => exact exists_compile_fixed (List.mem_append_left _ h)
    | inr h =>
      obtain ⟨id, hid, rfl⟩ := List.mem_map.mp h
      exact ⟨_, (compile_nullCheck id).trans (if_pos (small id hid))⟩
  | inr h => exact exists_compile_fixed (List.mem_append_right _ h)

end Catalog

namespace Effective

/-- Without extra rules there is a pipeline if every disabled entry is known and no identifier is too
    long. -/
theorem exists_pipeline {e : Effective} (none : e.rules = [])
    (known : ∀ entry ∈ e.disabledRules, e.knows entry = true)
    (small : ∀ id ∈ e.identifiers,
      (Catalog.negationExpr id.toList).cost ≤ Expr.costLimit) :
    ∃ p, e.pipeline = .ok p := by
  have builtins : ∀ rule ∈ e.enabledBuiltins,
      ∃ regex, Regex.compile rule.pattern = .ok regex := fun rule h =>
    Catalog.exists_compile_rules small rule (List.mem_filter.mp h).1
  obtain ⟨p, hp⟩ := Rule.exists_compileAll builtins
  have all : e.disabledRules.find? (!e.knows ·) = .none := by
    simpa [List.find?_eq_none] using known
  have extras : e.enabledExtras = [] := by simp [enabledExtras, none]
  exact ⟨p, by simp [pipeline, all, hp, extras, bind, Except.bind, pure, Except.pure]⟩

/-- Without extra rules, a pipeline holds the built-in rules that are enabled. -/
theorem compileAll_of_pipeline {e : Effective} (none : e.rules = []) (h : e.pipeline = .ok p) :
    Rule.compileAll e.enabledBuiltins = .ok p := by
  rw [pipeline] at h
  split at h
  · cases h
  · have extras : e.enabledExtras = [] := by simp [enabledExtras, none]
    cases builtins : Rule.compileAll e.enabledBuiltins with
    | error fault => simp [builtins, bind, Except.bind] at h
    | ok rs => simpa [builtins, extras, bind, Except.bind, pure, Except.pure] using h

/-- Without extra rules, a pipeline makes the edits of the built-in rules that are enabled. -/
theorem pass_of_pipeline {e : Effective} (none : e.rules = []) (h : e.pipeline = .ok p) :
    ∃ es, es.Sublist (Catalog.edits e.identifiers) ∧
      ∀ text : String, Edit.Pass es text.toList (p.apply text).toList := by
  obtain ⟨es, sub, realizes⟩ :=
    exists_sublist_of_filter (Catalog.realizes_rules e.identifiers) (e.isEnabled ·.id)
  refine ⟨es, sub, fun text => ?_⟩
  rw [Pipeline.toList_apply]
  exact Rule.pass_of_compileAll realizes (compileAll_of_pipeline none h) (Document.ofString text)

end Effective

end LintRepair
