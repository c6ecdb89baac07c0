import LintRepair.Pattern.Regex
import LintRepair.Replacement.Template

/-! # Substitution

All matches of a pattern in a text are replaced by a template, filled in for each match. A reference
to a group that the pattern lacks, or that took no part in the match, stands for nothing.
-/

namespace LintRepair.Replacement

open LintRepair.Pattern

/-- The number of the group that a reference means. -/
def Reference.index? (names : List (String × Nat)) : Reference → Option Nat
  | .byNumber index => some index
  | .byName name => (names.find? (·.1 == name)).map (·.2)

/-- The part of the text that a group of a match covers. -/
def groupText (text : Array Char) (m : Span) (index : Nat) : Array Char :=
  match m.group? index with
  | some (start, stop) => text.extract start stop
  | none => #[]

/-- A part of a template, filled in for a match. -/
def Part.expand (names : List (String × Nat)) (text : Array Char) (m : Span) : Part → Array Char
  | .char c => #[c]
  | .group ref =>
    match ref.index? names with
    | some index => groupText text m index
    | none => #[]

/-- Parts of a template, filled in for a match. -/
def expand (names : List (String × Nat)) (text : Array Char) (m : Span) (ps : List Part) :
    Array Char :=
  ps.foldl (fun out part => out ++ part.expand names text m) #[]

/-- The text with what the matches cover replaced, the first match starting no earlier than the
    given position, up to which the result has been made. -/
def splice (text : Array Char) (fill : Span → Array Char) :
    Nat → Array Char → List Span → Array Char
  | pos, out, [] => out ++ text.extract pos text.size
  | pos, out, m :: ms => splice text fill m.stop (out ++ text.extract pos m.start ++ fill m) ms

/-- Replaces all matches. There is no answer when nothing matched. -/
def replaceAll? (r : Regex) (ps : List Part) (text : Array Char) : Option (Array Char) :=
  match r.spans text with
  | [] => none
  | ms => some (splice text (fun m => expand r.names text m ps) 0 #[] ms)

end LintRepair.Replacement
