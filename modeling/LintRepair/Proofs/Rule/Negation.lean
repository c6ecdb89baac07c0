import LintRepair.Proofs.Rule.FixedEdits

/-! # The edit of a rule for an identifier

The pattern of such a rule spells an exclamation mark and the identifier, whatever characters the
identifier has, and ends with a word boundary. The template stands for the comparison with null.
-/

namespace LintRepair.Pattern.Reader

variable {s : Reader} {c : Char} {fuel : Nat} {rest : List Char}

/-- A character without a meaning of its own is read as itself. -/
theorem run_plain (hs : s.extended = false) (hc : isMeta c = false) :
    run (fuel + 1) s (c :: rest) = run fuel (s.push (.literal ⟨c, false⟩)) rest := by
  have special (d : Char) (hd : isMeta d = true) : c ≠ d := by
    intro same
    subst same
    exact Bool.false_ne_true (hc.symm.trans hd)
  simp only [run, skip, hs, Bool.false_eq_true, if_false]
  split
  case h_1 h => exact absurd h (List.cons_ne_nil _ _)
  case h_14 h =>
    obtain ⟨rfl, rfl⟩ := List.cons.inj h
    rfl
  all_goals
    rename_i h
    exact absurd (List.cons.inj h).1 (special _ (by decide))

/-- After a backslash a character with a meaning of its own is read as itself. -/
theorem run_escaped (hs : s.extended = false) (hc : isMeta c = true) :
    run (fuel + 1) s ('\\' :: c :: rest) = run fuel (s.push (.literal ⟨c, false⟩)) rest := by
  have escapable : isEscapable c = true := by simp [isEscapable, hc]
  simp [run, skip, hs, escape?, escapable, Atom.toTree]

theorem run_boundary (hs : s.extended = false) :
    run (fuel + 2) s ['\\', 'b'] = some (s.push (.assertion .wordBoundary)) := by
  have letter : isEscapable 'b' = false := by decide
  simp [run, skip, hs, escape?, letter, boundary?, Atom.toTree, push]

end LintRepair.Pattern.Reader

namespace LintRepair.Catalog

open LintRepair.Text LintRepair.Files LintRepair.Pattern LintRepair.Replacement

/-- The trees of the characters of a text. -/
def literals (cs : List Char) : List Tree := cs.map fun c => .literal ⟨c, false⟩

theorem length_le_length_escapePattern (cs : List Char) :
    cs.length ≤ (escapePattern cs).length := by
  induction cs with
  | nil => exact Nat.le_refl _
  | cons c cs ih =>
    rw [escapePattern]
    split <;> simp only [List.length_cons] <;> omega

/-- Each character of an escaped text is read as itself. -/
theorem run_escapePattern {s : Reader} (hs : s.extended = false) (cs : List Char) (fuel : Nat)
    (rest : List Char) :
    Reader.run (cs.length + fuel) s (escapePattern cs ++ rest) =
      Reader.run fuel { s with items := (literals cs).reverse ++ s.items } rest := by
  induction cs generalizing s with
  | nil => rw [List.length_nil, Nat.zero_add]; rfl
  | cons c cs ih =>
    have step : Reader.run ((c :: cs).length + fuel) s (escapePattern (c :: cs) ++ rest) =
        Reader.run (cs.length + fuel) (s.push (.literal ⟨c, false⟩)) (escapePattern cs ++ rest) := by
      rw [List.length_cons, Nat.add_right_comm, escapePattern]
      cases hc : isMeta c with
      | true => exact Reader.run_escaped hs hc
      | false => exact Reader.run_plain hs hc
    have hpush : (s.push (.literal ⟨c, false⟩)).extended = false := hs
    rw [step, ih hpush]
    simp [literals, Reader.push]

/-- The pattern of the rule for an identifier. -/
def negationPattern (cs : List Char) : List Char := '!' :: (escapePattern cs ++ ['\\', 'b'])

theorem toList_pattern_nullCheck (id : String) :
    (nullCheck id).pattern.toList = negationPattern id.toList := by
  simp [nullCheck, negationPattern]

/-- The tree of the pattern. -/
def negationTree (cs : List Char) : Tree :=
  .concat (literals ('!' :: cs) ++ [.assertion .wordBoundary])

theorem run_negationPattern (cs : List Char) :
    Reader.run ((negationPattern cs).length + 1) .start (negationPattern cs) =
      some { Reader.start with
        items := .assertion .wordBoundary :: (literals ('!' :: cs)).reverse } := by
  have escaped : negationPattern cs = escapePattern ('!' :: cs) ++ ['\\', 'b'] := rfl
  obtain ⟨fuel, hfuel⟩ : ∃ fuel, (negationPattern cs).length + 1 = ('!' :: cs).length + (fuel + 2) := by
    have := length_le_length_escapePattern ('!' :: cs)
    refine ⟨(escapePattern ('!' :: cs)).length - ('!' :: cs).length + 1, ?_⟩
    rw [escaped, List.length_append]
    simp only [List.length_cons, List.length_nil] at this ⊢
    omega
  rw [hfuel, escaped, run_escapePattern rfl, Reader.run_boundary rfl]
  simp [Reader.push, Reader.start]

theorem depthAll_literals_append (cs : List Char) (a : Assertion) :
    Tree.depthAll (literals cs ++ [.assertion a]) = 0 := by
  induction cs with
  | nil => rfl
  | cons c cs ih =>
    change max 0 (Tree.depthAll (literals cs ++ [.assertion a])) = 0
    rw [ih]
    rfl

theorem read?_negationPattern (cs : List Char) :
    Source.read? (negationPattern cs) = some ⟨negationTree cs, []⟩ := by
  have items : (Tree.assertion .wordBoundary :: (literals ('!' :: cs)).reverse).reverse =
      literals ('!' :: cs) ++ [.assertion .wordBoundary] := by
    rw [List.reverse_cons, List.reverse_reverse]
  have body : Tree.ofItems (literals ('!' :: cs) ++ [.assertion .wordBoundary]) = negationTree cs := by
    cases cs <;> rfl
  have depth : (negationTree cs).depth = 1 := by
    rw [negationTree, Tree.depth, depthAll_literals_append]
  rw [Source.read?, run_negationPattern]
  simp only [Reader.body, Reader.start, items, body, List.reverse_singleton, Tree.ofBranches, depth]
  rfl

theorem exprs?_literals_append (cs : List Char) :
    Tree.exprs? .initial (literals cs ++ [.assertion .wordBoundary]) =
      some (cs.map Expr.char ++ [.look (.boundary .unicode)], .initial) := by
  induction cs with
  | nil => rfl
  | cons c cs ih =>
    have head : Tree.expr? .initial (.literal ⟨c, false⟩) = some (.char c, .initial) := rfl
    have split : literals (c :: cs) ++ [.assertion .wordBoundary] =
        .literal ⟨c, false⟩ :: (literals cs ++ [.assertion .wordBoundary]) := rfl
    simp only [split, Tree.exprs?, head, Option.bind_some, ih]
    rfl

/-- The expression of the pattern: the characters in sequence, then the word boundary. -/
def negationExpr (cs : List Char) : Expr :=
  .ofParts (('!' :: cs).map Expr.char ++ [.look (.boundary .unicode)])

theorem meaning?_negationPattern (cs : List Char) :
    Regex.meaning? (negationPattern cs) = some (negationExpr cs, []) := by
  have parts : (('!' :: cs).map Expr.char ++ [Expr.look (.boundary .unicode)]).flatMap Expr.parts =
      ('!' :: cs).map Expr.char ++ [.look (.boundary .unicode)] := by
    rw [List.flatMap_append, List.flatMap_map, List.map_eq_flatMap]
    rfl
  have tree : (negationTree cs).expr? .initial = some (negationExpr cs, .initial) := by
    rw [negationTree, Tree.expr?, exprs?_literals_append]
    simp only [Option.map_some, Expr.concat, parts, negationExpr]
  rw [Regex.meaning?, read?_negationPattern]
  simp [tree]

open Core Pieces

/-- The pattern of the rule for an identifier, compiled. -/
def negationRegex (cs : List Char) : Regex := ⟨sequence (spelling ('!' :: cs) ++ [boundary]), []⟩

theorem compile_nullCheck (id : String) : Regex.compile (nullCheck id).pattern =
    if (negationExpr id.toList).cost ≤ Expr.costLimit then .ok (negationRegex id.toList)
    else .error .tooLarge := by
  rw [Regex.compile, toList_pattern_nullCheck, meaning?_negationPattern]
  simp only [negationRegex, negationExpr, ofExpr_ofParts, List.map_append, spelling, boundary,
    List.map_map]
  rfl

/-- The negation of an identifier, up to a word boundary. -/
def negation (cs : List Char) : Edit :=
  .replace ⟨fun _ => True, '!' :: cs, fun next => Word ('!' :: cs).getLast? ↔ ¬ Word next⟩
    (cs ++ " == null".toList)

theorem parts_nullCheck (id : String) : parts (nullCheck id).replacement.toList =
    (id.toList ++ " == null".toList).map .char := by
  have null : escape " == null".toList = " == null".toList := escape_eq_self (by decide)
  rw [← parts_escape, escape_append, null, nullCheck]
  simp

/-- Compiled, the rule for an identifier replaces the negation of the identifier. -/
theorem realizes_nullCheck (id : String) : (nullCheck id).Realizes (negation id.toList) := by
  have compiled (regex : Regex) (h : Regex.compile (nullCheck id).pattern = .ok regex) :
      regex = negationRegex id.toList := by
    rw [compile_nullCheck] at h
    split at h
    · exact (Except.ok.inj h).symm
    · cases h
  refine Rule.realizes_of_hits compiled (fun source before old after new => ?_)
    fun _ _ h => h
  have last : (before ++ '!' :: id.toList).getLast? = ('!' :: id.toList).getLast? :=
    getLast?_append_of_ne_nil (List.cons_ne_nil _ _)
  simp only [CompiledRule.Hit, CompiledRule.fill_eq_of_chars (parts_nullCheck id), negationRegex,
    reads_spelling_append_iff, reads_boundary_cons_iff, reads_sequence_nil_iff, last]
  constructor
  · intro h
    obtain ⟨_, ⟨_, rfl, edge, rfl, rfl⟩, rfl⟩ := h
    exact Edit.hits_replace_iff.mpr ⟨⟨trivial, edge⟩, List.append_nil _, rfl⟩
  · intro hit
    obtain ⟨⟨-, edge⟩, rfl, rfl⟩ := Edit.hits_replace_iff.mp hit
    exact ⟨[], ⟨[], (List.append_nil _).symm, edge, rfl, rfl⟩, rfl⟩

end LintRepair.Catalog
