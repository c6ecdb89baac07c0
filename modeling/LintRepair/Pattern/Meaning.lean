import LintRepair.Pattern.Expr
import LintRepair.Pattern.Reader

/-! # From trees to expressions

A tree is given its meaning from left to right under the flags in force, which the tree can change
for what follows in the same group. Texts consist of characters, so what could match a part of a
character is refused.
-/

namespace LintRepair.Pattern

open LintRepair.Text

/-- The flags in force. Whether blanks count matters to reading only and is no longer needed. -/
structure Flags where
  ignoreCase : Bool
  multiLine : Bool
  dotAll : Bool
  swapGreed : Bool
  unicode : Bool
  crlf : Bool
  deriving DecidableEq, Repr

namespace Flags

def initial : Flags := ⟨false, false, false, false, true, false⟩

/-- Switches the flags that a change mentions. -/
def apply (f : Flags) (change : FlagChange) : Flags where
  ignoreCase := (change.state? .ignoreCase).getD f.ignoreCase
  multiLine := (change.state? .multiLine).getD f.multiLine
  dotAll := (change.state? .dotAll).getD f.dotAll
  swapGreed := (change.state? .swapGreed).getD f.swapGreed
  unicode := (change.state? .unicode).getD f.unicode
  crlf := (change.state? .crlf).getD f.crlf

/-- The characters that make up words. -/
def alphabet (f : Flags) : Alphabet := if f.unicode then .unicode else .ascii

/-- Adds the other cases of the members when case does not count. -/
def fold (f : Flags) (chars : CharSet) : CharSet :=
  if f.ignoreCase then if f.unicode then chars.foldCase else chars.foldAsciiCase else chars

/-- Takes the rest of a set if asked to. Without Unicode the rest would hold bytes that are no
    characters, which is refused. -/
def complement? (f : Flags) (negated : Bool) (chars : CharSet) : Option CharSet :=
  if negated then if f.unicode then some chars.complement else none else some chars

end Flags

/-- The characters of a class named between colons. -/
def AsciiClass.chars : AsciiClass → CharSet
  | .alnum => ⟨[(0x30, 0x39), (0x41, 0x5A), (0x61, 0x7A)]⟩
  | .alpha => ⟨[(0x41, 0x5A), (0x61, 0x7A)]⟩
  | .ascii => ⟨[(0, 0x7F)]⟩
  | .blank => ⟨[(0x9, 0x9), (0x20, 0x20)]⟩
  | .cntrl => ⟨[(0, 0x1F), (0x7F, 0x7F)]⟩
  | .digit => ⟨[(0x30, 0x39)]⟩
  | .graph => ⟨[(0x21, 0x7E)]⟩
  | .lower => ⟨[(0x61, 0x7A)]⟩
  | .print => ⟨[(0x20, 0x7E)]⟩
  | .punct => ⟨[(0x21, 0x2F), (0x3A, 0x40), (0x5B, 0x60), (0x7B, 0x7E)]⟩
  | .space => ⟨[(0x9, 0xD), (0x20, 0x20)]⟩
  | .upper => ⟨[(0x41, 0x5A)]⟩
  | .word => ⟨[(0x30, 0x39), (0x41, 0x5A), (0x5F, 0x5F), (0x61, 0x7A)]⟩
  | .xdigit => ⟨[(0x30, 0x39), (0x41, 0x46), (0x61, 0x66)]⟩

/-- The characters of a class named by one letter. -/
def Shorthand.chars (unicode : Bool) : Shorthand → CharSet
  | .digit => if unicode then decimalDigits else AsciiClass.digit.chars
  | .space => if unicode then whiteSpace else AsciiClass.space.chars
  | .word => if unicode then wordChars else AsciiClass.word.chars

/-- The characters of a property. -/
def PropertyQuery.chars? : PropertyQuery → Option CharSet
  | .named name => Property.named? name
  | .valued name value => Property.valued? name value

/-- The class of a property under the flags in force. -/
def propertyChars? (f : Flags) (negated : Bool) (query : PropertyQuery) : Option CharSet :=
  if f.unicode then
    query.chars?.bind fun chars => f.complement? negated (f.fold chars)
  else none

/-- Whether a literal may stand outside a class: without Unicode, no byte beyond the seven-bit
    characters. -/
def Literal.isAllowed (l : Literal) (f : Flags) : Bool :=
  f.unicode || !l.asByte || l.char.toNat < 128

/-- Whether a literal may stand in a class: without Unicode, a seven-bit character only. -/
def Literal.isAllowedInClass (l : Literal) (f : Flags) : Bool :=
  f.unicode || l.char.toNat < 128

/-- The result of an operator, whose sides are folded first. -/
def SetOp.apply (f : Flags) (op : SetOp) (lhs rhs : CharSet) : CharSet :=
  match op with
  | .intersection => (f.fold lhs).inter (f.fold rhs)
  | .difference => (f.fold lhs).diff (f.fold rhs)
  | .symmetricDifference => (f.fold lhs).symmDiff (f.fold rhs)

namespace ClassTree

mutual
/-- The characters of the contents of a class, not yet folded. -/
def chars? (f : Flags) : ClassTree → Option CharSet
  | .literal l => if l.isAllowedInClass f then some (.singleton l.char) else none
  | .range lo hi =>
    if lo.isAllowedInClass f && hi.isAllowedInClass f then some (.range lo.char hi.char) else none
  | .ascii negated kind => f.complement? negated (f.fold kind.chars)
  | .shorthand negated kind => f.complement? negated (kind.chars f.unicode)
  | .property negated query => propertyChars? f negated query
  | .bracketed negated contents =>
    (contents.chars? f).bind fun chars => f.complement? negated (f.fold chars)
  | .union items => (charsOfAll? f items).map .ofRanges
  | .op kind lhs rhs =>
    (lhs.chars? f).bind fun l => (rhs.chars? f).map fun r => kind.apply f l r

def charsOfAll? (f : Flags) : List ClassTree → Option (List (Nat × Nat))
  | [] => some []
  | item :: items =>
    (item.chars? f).bind fun chars => (charsOfAll? f items).map (chars.ranges ++ ·)
end

end ClassTree

/-- The condition that an assertion stands for. -/
def Assertion.look (f : Flags) : Assertion → Look
  | .startLine => if f.multiLine then if f.crlf then .lineStartCRLF else .lineStart else .textStart
  | .endLine => if f.multiLine then if f.crlf then .lineEndCRLF else .lineEnd else .textEnd
  | .startText => .textStart
  | .endText => .textEnd
  | .wordBoundary => .boundary f.alphabet
  | .notWordBoundary => .noBoundary f.alphabet
  | .wordStart => .wordStart f.alphabet
  | .wordEnd => .wordEnd f.alphabet
  | .wordStartHalf => .wordStartHalf f.alphabet
  | .wordEndHalf => .wordEndHalf f.alphabet

/-- The characters that a dot stands for: all, or all but line ends. -/
def dotChars? (f : Flags) : Option CharSet :=
  if !f.unicode then none
  else if f.dotAll then some .all
  else if f.crlf then some ⟨[(0, 0x9), (0xB, 0xC), (0xE, CharSet.last)]⟩
  else some ⟨[(0, 0x9), (0xB, CharSet.last)]⟩

/-- The characters that a literal stands for. -/
def Literal.expr? (f : Flags) (l : Literal) : Option Expr :=
  if l.isAllowed f then
    if f.ignoreCase then some (.ofSet (f.fold (.singleton l.char))) else some (.char l.char)
  else none

namespace Tree

mutual
/-- The meaning of a tree, and the flags in force after it. -/
def expr? (f : Flags) : Tree → Option (Expr × Flags)
  | .empty => some (.empty, f)
  | .flags change => some (.empty, f.apply change)
  | .literal l => (l.expr? f).map fun e => (e, f)
  | .dot => (dotChars? f).map fun chars => (.ofSet chars, f)
  | .assertion a => some (.look (a.look f), f)
  | .shorthand negated kind =>
    (f.complement? negated (kind.chars f.unicode)).map fun chars => (.ofSet chars, f)
  | .property negated query =>
    (propertyChars? f negated query).map fun chars => (.ofSet chars, f)
  | .bracketed negated contents =>
    (contents.chars? f).bind fun chars =>
      (f.complement? negated (f.fold chars)).map fun chars => (.ofSet chars, f)
  | .repetition lo hi greedy body =>
    (body.expr? f).map fun (e, f) => (.repeatOf lo hi (greedy != f.swapGreed) e, f)
  | .group (.capturing index) body => (body.expr? f).map fun (e, _) => (.group index e, f)
  | .group (.plain change) body => (body.expr? (f.apply change)).map fun (e, _) => (e, f)
  | .alternation branches => (exprs? f branches).map fun (es, f) => (.alternation es, f)
  | .concat items => (exprs? f items).map fun (es, f) => (.concat es, f)

def exprs? (f : Flags) : List Tree → Option (List Expr × Flags)
  | [] => some ([], f)
  | item :: items =>
    (item.expr? f).bind fun (e, f) => (exprs? f items).map fun (es, f) => (e :: es, f)
end

end Tree

end LintRepair.Pattern
