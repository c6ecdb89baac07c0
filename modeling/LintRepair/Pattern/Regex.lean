import LintRepair.Pattern.Meaning
import LintRepair.Pattern.Search

/-! # Compiled patterns

`Regex.compile` takes a pattern text to a compiled pattern, unless the text is no pattern or its
automaton would be too large.
-/

namespace LintRepair.Pattern

/-- Why a pattern text has no compiled form. -/
inductive CompileFault where
  | malformed
  | tooLarge
  deriving DecidableEq, Repr

/-- The wording of a fault. -/
def CompileFault.message : CompileFault → String
  | .malformed => "regex parse error:\n    the text is not a pattern"
  | .tooLarge =>
    "Compiled regex exceeds size limit of " ++ toString Expr.costLimit ++ " bytes."

/-- A compiled pattern: its core expression, and the numbers of its named groups. -/
structure Regex where
  core : Core
  names : List (String × Nat)

namespace Regex

/-- The expression of a pattern text and the numbers of its named groups. -/
def meaning? (pattern : List Char) : Option (Expr × List (String × Nat)) := do
  let source ← Source.read? pattern
  let (e, _) ← source.tree.expr? .initial
  return (e, source.names)

/-- Compiles a pattern text. -/
def compile (pattern : String) : Except CompileFault Regex :=
  match meaning? pattern.toList with
  | none => .error .malformed
  | some (e, names) =>
    if e.cost ≤ Expr.costLimit then .ok ⟨.ofExpr e, names⟩ else .error .tooLarge

/-- The program that searches for the pattern. -/
def program (r : Regex) : Program := .ofCore r.core

/-- All matches in a text from left to right. -/
def spans (r : Regex) (text : Array Char) : List Span := Pattern.spans r.program text

end Regex

end LintRepair.Pattern
