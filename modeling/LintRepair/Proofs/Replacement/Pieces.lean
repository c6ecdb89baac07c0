import LintRepair.Proofs.Pattern.Repetition
import LintRepair.Proofs.Replacement.Rewriting
import LintRepair.Proofs.Rule.Realization

/-! # Replacing the leftmost matches

What a rule does to a document, said by the meaning of its pattern: the text falls into matches and what
stands between them, each match is replaced, and no match starts at a place that was passed over.
-/

namespace LintRepair

open LintRepair.Files LintRepair.Pattern

namespace Replacement

/-- A match that is replaced, with the text between it and the match before. -/
structure Piece where
  gap : List Char
  found : List Char
  /-- What the groups of the match recorded. -/
  slots : Slots
  put : List Char

/-- The text that pieces were. -/
def original (ps : List Piece) : List Char := ps.flatMap fun p => p.gap ++ p.found

/-- The text that pieces have become. -/
def edited (ps : List Piece) : List Char := ps.flatMap fun p => p.gap ++ p.put

/-- The match of a piece behind other text. -/
def Piece.span (p : Piece) (before : List Char) : Span :=
  ⟨(before ++ p.gap).length, (before ++ p.gap ++ p.found).length, p.slots⟩

/-- No match starts from one position up to another, unless the first position is the end of a match and
    an empty one starts there. -/
def PassedOver (a : Reading) (text : List Char) (behindMatch : Bool) (start stop : Nat) : Prop :=
  ∀ i, start ≤ i → i < stop → a.StartsAt text i → behindMatch = true ∧ i = start ∧ a.EmptyAt text i

/-- A piece is the next one to replace behind other text, which ends with a match if `behindMatch` says
    so. -/
structure Piece.IsNext (a : Reading) (fill : Span → List Char) (text : List Char) (behindMatch : Bool)
    (before : List Char) (p : Piece) : Prop where
  /-- It is a match at its place in the whole text. -/
  matched : a.Matches text (p.span before)
  filled : p.put = fill (p.span before)
  /-- It is no empty match directly at the end of the match before. -/
  fresh : behindMatch = true → p.found = [] → p.gap ≠ []
  passed : PassedOver a text behindMatch before.length (p.span before).start

/-- Pieces and the text behind the last of them show how a text was changed: the leftmost matches that do
    not overlap have been replaced by what they are filled with. -/
structure LeftmostReplaced (a : Reading) (fill : Span → List Char) (text out : List Char)
    (ps : List Piece) (tail : List Char) : Prop where
  text_eq : text = original ps ++ tail
  out_eq : out = edited ps ++ tail
  isNext : ∀ front p back, ps = front ++ p :: back →
    p.IsNext a fill text (!front.isEmpty) (original front)
  passed : PassedOver a text (!ps.isEmpty) (original ps).length (text.length + 1)

end Replacement

namespace Pattern

/-- A compiled pattern has the meaning of the pattern text, with its counts written out. -/
theorem Regex.compile_eq_ok {pattern : String} {regex : Regex}
    (h : Regex.compile pattern = .ok regex) :
    ∃ e names, Regex.meaning? pattern.toList = some (e, names) ∧ regex = ⟨.ofExpr e, names⟩ := by
  rw [Regex.compile] at h
  split at h
  · cases h
  · rename_i e names described
    split at h
    · exact ⟨e, names, described, (Except.ok.inj h).symm⟩
    · cases h

end Pattern

namespace CompiledRule

open Replacement

variable {r : CompiledRule} {text before rest out : List Char} {ended : Bool}

theorem emptyAt_of_hit {after new : List Char} (h : r.Hit before [] after new) :
    r.regex.core.meaning.EmptyAt (before ++ after) before.length := by
  obtain ⟨s, reads, -⟩ := h
  exact ⟨⟨before.length, before.length, s⟩, ⟨before, [], after, rfl, rfl, by simp, reads⟩, rfl, rfl⟩

theorem passedOver_of_passed {stop : Nat} (split : text = before ++ rest)
    (within : stop ≤ text.length + 1)
    (passed : ∀ skipped rest', rest = skipped ++ rest' → (before ++ skipped).length < stop →
      Passed r.Hit ended before skipped rest') :
    PassedOver r.regex.core.meaning text ended before.length stop := by
  intro i lower upper starts
  obtain ⟨skipped, rest', rfl, rfl⟩ :
      ∃ skipped rest', rest = skipped ++ rest' ∧ i = (before ++ skipped).length := by
    refine ⟨rest.take (i - before.length), rest.drop (i - before.length),
      (List.take_append_drop _ _).symm, ?_⟩
    rw [split, List.length_append] at within
    rw [List.length_append, List.length_take]
    omega
  subst split
  rw [← List.append_assoc] at starts
  obtain ⟨behind, rfl, new, empty⟩ := passed skipped rest' rfl upper (starts_iff.mpr starts)
  refine ⟨behind, by rw [List.append_nil], ?_⟩
  rw [List.append_nil, List.nil_append]
  exact emptyAt_of_hit empty

/-- A part that a rule replaces is a piece. -/
theorem exists_isNext {gap old after new : List Char} (found : r.Hit (before ++ gap) old after new)
    (split : text = before ++ (gap ++ (old ++ after))) (fresh : old = [] → ended = true → gap ≠ [])
    (passed : ∀ skipped rest', gap = skipped ++ rest' → rest' ≠ [] →
      Passed r.Hit ended before skipped (rest' ++ (old ++ after))) :
    ∃ p : Piece, p.gap = gap ∧ p.found = old ∧ p.put = new ∧
      p.IsNext r.regex.core.meaning (r.fill text) text ended before := by
  obtain ⟨s, reads, rfl⟩ := found
  have whole : before ++ gap ++ (old ++ after) = text := by rw [split, List.append_assoc]
  refine ⟨⟨gap, old, s, _⟩, rfl, rfl, rfl, ?_⟩
  constructor
  case matched => exact ⟨before ++ gap, old, after, whole.symm, rfl, rfl, reads⟩
  case filled => rw [whole]; rfl
  case fresh => exact fun behind none => fresh none behind
  case passed =>
    refine passedOver_of_passed split ?_ fun skipped rest' hrest within => ?_
    · rw [← whole]
      simp only [Piece.span, List.length_append]
      omega
    · have shorter : skipped.length < gap.length := by
        simpa [Piece.span] using within
      obtain ⟨more, rfl⟩ : skipped <+: gap :=
        List.prefix_of_prefix_length_le ⟨rest', hrest.symm⟩ (List.prefix_append _ _)
          (Nat.le_of_lt shorter)
      rw [List.append_assoc] at hrest
      obtain rfl := List.append_cancel_left hrest
      refine passed skipped more rfl ?_
      rintro rfl
      simp at shorter

/-- A rewriting shows the pieces that a rule replaces. -/
theorem exists_pieces (h : Rewritten r.Hit ended before rest out) (split : text = before ++ rest) :
    ∃ ps tail, rest = original ps ++ tail ∧ out = edited ps ++ tail ∧
      (∀ front p back, ps = front ++ p :: back →
        p.IsNext r.regex.core.meaning (r.fill text) text (ended || !front.isEmpty)
          (before ++ original front)) ∧
      PassedOver r.regex.core.meaning text (ended || !ps.isEmpty) (before ++ original ps).length
        (text.length + 1) := by
  induction h with
  | @done ended before rest passed =>
    refine ⟨[], rest, rfl, rfl, by simp, ?_⟩
    have none := passedOver_of_passed split (Nat.le_refl _) fun skipped rest' hrest _ =>
      passed skipped rest' hrest
    simpa [original] using none
  | @hit ended before gap old after new out found fresh passed _ ih =>
    obtain ⟨p, rfl, rfl, rfl, first⟩ := exists_isNext found split fresh passed
    obtain ⟨ps, tail, rfl, rfl, later, last⟩ := ih (by simp [split])
    refine ⟨p :: ps, tail, by simp [original], by simp [edited], ?_, by simpa [original] using last⟩
    intro front q back parts
    cases front with
    | nil =>
      obtain ⟨rfl, -⟩ := List.cons.inj parts
      simpa [original] using first
    | cons first front =>
      obtain ⟨rfl, rest⟩ := List.cons.inj parts
      simpa [original] using later front q back rest

/-- A rule has no answer when its pattern matches nowhere. -/
theorem substitute?_eq_none_iff {d : Document} :
    r.substitute? d = none ↔ ∀ i, ¬ r.regex.core.meaning.StartsAt d.toList i := by
  have spans := spans_leftmost r.regex.core d
  have answer : r.substitute? d = none ↔ Pattern.spans (.ofCore r.regex.core) d = [] := by
    have same : r.regex.spans d = Pattern.spans (.ofCore r.regex.core) d := rfl
    unfold substitute? replaceAll?
    rw [same]
    cases Pattern.spans (.ofCore r.regex.core) d <;> simp
  rw [answer]
  constructor
  · intro none i starts
    rw [none] at spans
    cases spans with
    | none passed => cases (passed i (Nat.zero_le i) starts).1
  · intro nowhere
    cases found : Pattern.spans (.ofCore r.regex.core) d with
    | nil => rfl
    | cons m ms =>
      rw [found] at spans
      cases spans with
      | cons matched => exact absurd ⟨m, matched, rfl⟩ (nowhere m.start)

/-- There is an answer exactly if a piece is replaced. -/
theorem substitute?_eq_none_iff_pieces {d : Document} {fill : Span → List Char} {ps : List Piece}
    {tail : List Char}
    (h : LeftmostReplaced r.regex.core.meaning fill d.toList out ps tail) :
    r.substitute? d = none ↔ ps = [] := by
  rw [substitute?_eq_none_iff]
  constructor
  · intro nowhere
    cases ps with
    | nil => rfl
    | cons p ps =>
      have first := h.isNext [] p ps rfl
      exact absurd ⟨_, first.matched, rfl⟩ (nowhere _)
  · rintro rfl i starts
    have within : i ≤ d.toList.length := by
      obtain ⟨m, matched, rfl⟩ := starts
      exact Nat.le_trans (Core.Matches.start_le_stop matched) (Core.Matches.stop_le_length matched)
    cases (h.passed i (Nat.zero_le _) (Nat.lt_succ_of_le within) starts).1

/-- A rule replaces the leftmost matches of its pattern in a document, by its template filled in for each
    of them, and it has no answer when there are none. -/
theorem replaces_leftmost {rule : Rule} {source : Option FilePath} {r : CompiledRule}
    (compiled : rule.compile source = .ok r) (d : Document) :
    ∃ e names, Regex.meaning? rule.pattern.toList = some (e, names) ∧ ∃ ps tail,
      LeftmostReplaced e.meaning
        (fun m => (expand names d m (parts rule.replacement.toList)).toList) d.toList
        (r.apply d).toList ps tail ∧
      (r.substitute? d = none ↔ ps = []) := by
  obtain ⟨regex, meant, rfl⟩ := Rule.compile_eq_ok_iff.mp compiled
  obtain ⟨e, names, described, rfl⟩ := Regex.compile_eq_ok meant
  obtain ⟨ps, tail, text, out, isNext, last⟩ :=
    exists_pieces (rewritten ⟨rule, ⟨.ofExpr e, names⟩, source⟩ d) (List.nil_append _).symm
  have replaced : LeftmostReplaced (Core.ofExpr e).meaning _ _ _ ps tail := ⟨text, out, isNext, last⟩
  have answered := substitute?_eq_none_iff_pieces (r := ⟨rule, ⟨.ofExpr e, names⟩, source⟩) replaced
  have same : fill ⟨rule, ⟨.ofExpr e, names⟩, source⟩ d.toList =
      fun m => (expand names d m (parts rule.replacement.toList)).toList := by
    funext m
    rw [fill, Array.toArray_toList]
  rw [Core.meaning_ofExpr, same] at replaced
  exact ⟨e, names, described, ps, tail, replaced, answered⟩

/-- Empty matches are replaced, too. -/
theorem replaces_leftmost_empty : ∃ r, (⟨"gaps", "x*", "-"⟩ : Rule).compile none = .ok r ∧
    r.substitute? "ab".toList.toArray ≠ none := by
  have meant : Regex.meaning? "x*".toList = some (.repeated 0 none true (.char 'x'), []) := rfl
  refine ⟨_, rfl, fun unchanged => ?_⟩
  obtain ⟨e, names, described, ps, tail, replaced, answered⟩ :=
    @replaces_leftmost ⟨"gaps", "x*", "-"⟩ none _ rfl "ab".toList.toArray
  obtain rfl := answered.mp unchanged
  obtain ⟨rfl, -⟩ := Prod.mk.inj (Option.some.inj (meant.symm.trans described))
  have start : Reading.StartsAt (Expr.repeated 0 none true (.char 'x')).meaning "ab".toList 0 :=
    ⟨⟨0, 0, []⟩, ⟨[], [], "ab".toList, rfl, rfl, rfl, 0, Nat.le_refl 0, nofun, rfl, rfl⟩, rfl⟩
  cases (replaced.passed 0 (Nat.le_refl 0) (Nat.succ_pos _) start).1

end CompiledRule

end LintRepair
