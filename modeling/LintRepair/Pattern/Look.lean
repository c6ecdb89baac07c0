import LintRepair.Text.WordChar

/-! # Conditions on a position

A position of a text lies before a character or at the end. Each condition is decided by the
characters on its two sides.
-/

namespace LintRepair.Pattern

open LintRepair.Text

/-- Which characters make up words. -/
inductive Alphabet where
  | unicode
  | ascii
  deriving DecidableEq, Repr

/-- Conditions on a position. Line ends are line feeds, or also carriage returns where the name says
    so; then a position between the two characters of a line end is at neither start nor end. -/
inductive Look where
  | textStart
  | textEnd
  | lineStart
  | lineEnd
  | lineStartCRLF
  | lineEndCRLF
  | boundary (alphabet : Alphabet)
  | noBoundary (alphabet : Alphabet)
  | wordStart (alphabet : Alphabet)
  | wordEnd (alphabet : Alphabet)
  | wordStartHalf (alphabet : Alphabet)
  | wordEndHalf (alphabet : Alphabet)
  deriving DecidableEq, Repr

/-- Whether there is a word character, none beyond the ends of the text. -/
def Alphabet.isWord (alphabet : Alphabet) : Option Char → Bool
  | none => false
  | some c => match alphabet with
    | .unicode => isWordChar c
    | .ascii => isAsciiWordChar c

/-- Whether the condition holds between two characters, of which either may be missing. -/
def Look.between (look : Look) (before after : Option Char) : Bool :=
  match look with
  | .textStart => before.isNone
  | .textEnd => after.isNone
  | .lineStart => before.isNone || before == some '\n'
  | .lineEnd => after.isNone || after == some '\n'
  | .lineStartCRLF =>
    before.isNone || before == some '\n' || (before == some '\r' && after != some '\n')
  | .lineEndCRLF =>
    after.isNone || after == some '\r' || (after == some '\n' && before != some '\r')
  | .boundary a => a.isWord before != a.isWord after
  | .noBoundary a => a.isWord before == a.isWord after
  | .wordStart a => !a.isWord before && a.isWord after
  | .wordEnd a => a.isWord before && !a.isWord after
  | .wordStartHalf a => !a.isWord before
  | .wordEndHalf a => !a.isWord after

/-- The character before a position. -/
def charBefore (text : Array Char) : Nat → Option Char
  | 0 => none
  | i + 1 => text[i]?

/-- Whether the condition holds at a position of a text. -/
def Look.holds (look : Look) (text : Array Char) (pos : Nat) : Bool :=
  look.between (charBefore text pos) text[pos]?

end LintRepair.Pattern
