import LintRepair.Proofs.Pattern.Sequence
import LintRepair.Proofs.Replacement.Edit
import LintRepair.Proofs.Replacement.Filling
import LintRepair.Proofs.Replacement.Trimming

/-! # Rules that make edits

What a rule replaces follows from the reading of its pattern and from its template. A rule makes an
edit when it replaces what the edit replaces, or more on both sides that it puts back.
-/

namespace LintRepair

open LintRepair.Text LintRepair.Files LintRepair.Pattern LintRepair.Replacement

/-- Whether there is a word character. -/
def Word (c : Option Char) : Prop := Alphabet.unicode.isWord c = true

instance : DecidablePred Word := fun c => inferInstanceAs (Decidable (Alphabet.unicode.isWord c = true))

theorem word_of_all {cs : List Char} (h : cs.all (wordChars.contains ·) = true) :
    ∀ c ∈ cs, Word (some c) := List.all_eq_true.mp h

theorem not_word_none : ¬ Word none := Bool.false_ne_true

namespace Rule

variable {rule : Rule} {regex : Regex} {e : Edit}

/-- Compiled, a rule makes an edit of every document. -/
def Realizes (rule : Rule) (e : Edit) : Prop :=
  ∀ source r, rule.compile source = .ok r → ∀ d, e.Yields d.toList (r.apply d).toList

theorem compile_eq_ok_iff {source : Option FilePath} {r : CompiledRule} :
    rule.compile source = .ok r ↔
      ∃ regex, Regex.compile rule.pattern = .ok regex ∧ r = ⟨rule, regex, source⟩ := by
  rw [compile]
  cases Regex.compile rule.pattern with
  | ok regex => simp [eq_comm]
  | error cause => simp

/-- A rule makes an edit when what it replaces has the same effect. -/
theorem realizes_of_hits {hits : Hits}
    (compiled : ∀ regex', Regex.compile rule.pattern = .ok regex' → regex' = regex)
    (same : ∀ source before old after new,
      CompiledRule.Hit ⟨rule, regex, source⟩ before old after new ↔ hits before old after new)
    (yields : ∀ text out, Rewritten hits false [] text out → e.Yields text out) :
    rule.Realizes e := by
  intro source r h d
  obtain ⟨regex', h', rfl⟩ := compile_eq_ok_iff.mp h
  obtain rfl := compiled regex' h'
  have eq : CompiledRule.Hit ⟨rule, regex', source⟩ = hits := by
    funext before old after new
    exact propext (same source before old after new)
  exact yields _ _ (eq ▸ CompiledRule.rewritten ⟨rule, regex', source⟩ d)

/-- A rule makes an edit to which its replaced parts can be trimmed. -/
theorem realizes_of_trims {hits : Hits}
    (compiled : ∀ regex', Regex.compile rule.pattern = .ok regex' → regex' = regex)
    (same : ∀ source before old after new,
      CompiledRule.Hit ⟨rule, regex, source⟩ before old after new ↔ hits before old after new)
    (solid : Solid hits) (solid' : e.Solid) (trims : Trims hits e.hits) : rule.Realizes e := by
  refine realizes_of_hits compiled same fun text out h => ?_
  refine h.trim trims solid solid'.hits fun starts => ?_
  cases trims.back _ _ starts with
  | inl same => exact same
  | inr side =>
    obtain ⟨b, c, hb, -⟩ := side
    simp at hb

theorem eq_of_compile (compiled : Regex.compile rule.pattern = .ok regex) (regex' : Regex)
    (h : Regex.compile rule.pattern = .ok regex') : regex' = regex :=
  Except.ok.inj (h.symm.trans compiled)

end Rule

namespace CompiledRule

variable {rule : Rule} {regex : Regex} {source : Option FilePath}
  {cs before read after : List Char} {m : Span}

theorem fill_eq_of_chars (template : parts rule.replacement.toList = cs.map .char)
    (text : List Char) (m : Span) : fill ⟨rule, regex, source⟩ text m = cs := by
  rw [fill, template, toList_expand_chars]

theorem fill_eq_of_group {ds : List Char} {index : Nat} {s : Slots}
    (template : parts rule.replacement.toList =
      cs.map .char ++ .group (.byNumber index) :: ds.map .char)
    (hindex : index ≠ 0) (hm : m.slots =
      (2 * index + 1, (before ++ read).length) :: (2 * index, before.length) :: s) :
    fill ⟨rule, regex, source⟩ (before ++ (read ++ after)) m = cs ++ (read ++ ds) := by
  have split : (before ++ (read ++ after)).toArray.toList = before ++ (read ++ after) := rfl
  rw [fill, template, toList_expand, List.flatMap_append, ← toList_expand, ← toList_expand,
    toList_expand_chars, toList_expand_group _ split hindex, toList_expand_chars]
  · simp [Span.slot?, hm]
  · simp [Span.slot?, hm]

end CompiledRule

end LintRepair
