/-! # Patterns as they are written

The tree of a pattern text, before flags, character classes and counts have been given their
meaning. Reading a text yields a tree, and a tree whose nesting is within the limit is given a
meaning as an expression.
-/

namespace LintRepair.Pattern

/-- What a flag letter switches. -/
inductive Flag where
  | ignoreCase
  | multiLine
  | dotAll
  | swapGreed
  | unicode
  | crlf
  | extended
  deriving DecidableEq, Repr

/-- Flags in the order written, each switched on or off. -/
abbrev FlagChange := List (Flag × Bool)

/-- The classes named by one letter. -/
inductive Shorthand where
  | digit
  | space
  | word
  deriving DecidableEq, Repr

/-- The classes of seven-bit characters named between colons. -/
inductive AsciiClass where
  | alnum | alpha | ascii | blank | cntrl | digit | graph | lower | print | punct | space | upper
  | word | xdigit
  deriving DecidableEq, Repr

/-- How a character property is asked for. -/
inductive PropertyQuery where
  | named (name : List Char)
  | valued (name value : List Char)
  deriving DecidableEq, Repr

/-- Operations on classes, all of one precedence and grouped from the left. -/
inductive SetOp where
  | intersection
  | difference
  | symmetricDifference
  deriving DecidableEq, Repr

/-- A literal character. One written as two hexadecimal digits also stands for a byte. -/
structure Literal where
  char : Char
  asByte : Bool
  deriving DecidableEq, Repr

/-- The contents of a bracketed class. -/
inductive ClassTree where
  | literal (l : Literal)
  | range (lo hi : Literal)
  | ascii (negated : Bool) (kind : AsciiClass)
  | shorthand (negated : Bool) (kind : Shorthand)
  | property (negated : Bool) (query : PropertyQuery)
  | bracketed (negated : Bool) (contents : ClassTree)
  | union (items : List ClassTree)
  | op (kind : SetOp) (lhs rhs : ClassTree)
  deriving Repr

/-- Conditions on a position, as written. -/
inductive Assertion where
  | startLine
  | endLine
  | startText
  | endText
  | wordBoundary
  | notWordBoundary
  | wordStart
  | wordEnd
  | wordStartHalf
  | wordEndHalf
  deriving DecidableEq, Repr

/-- What the opening of a group says about it. -/
inductive GroupKind where
  | capturing (index : Nat)
  | plain (flags : FlagChange)
  deriving DecidableEq, Repr

/-- A pattern as written. -/
inductive Tree where
  | empty
  | flags (change : FlagChange)
  | literal (l : Literal)
  | dot
  | assertion (a : Assertion)
  | shorthand (negated : Bool) (kind : Shorthand)
  | property (negated : Bool) (query : PropertyQuery)
  | bracketed (negated : Bool) (contents : ClassTree)
  | repetition (min : Nat) (max : Option Nat) (greedy : Bool) (body : Tree)
  | group (kind : GroupKind) (body : Tree)
  | alternation (branches : List Tree)
  | concat (items : List Tree)
  deriving Repr

namespace ClassTree

/-- Several items side by side; a single one stands for itself. -/
def ofItems : List ClassTree → ClassTree
  | [item] => item
  | items => .union items

mutual
/-- How deeply operators, unions and brackets are nested. An empty union counts for nothing. -/
def depth : ClassTree → Nat
  | .bracketed _ contents => contents.depth + 1
  | .union [] => 0
  | .union (item :: items) => max item.depth (depthAll items) + 1
  | .op _ lhs rhs => max lhs.depth rhs.depth + 1
  | _ => 0

def depthAll : List ClassTree → Nat
  | [] => 0
  | item :: items => max item.depth (depthAll items)
end

end ClassTree

namespace Tree

/-- Items in sequence; a single one stands for itself. -/
def ofItems : List Tree → Tree
  | [] => .empty
  | [item] => item
  | items => .concat items

/-- Branches of a choice; a single one stands for itself. -/
def ofBranches : List Tree → Tree
  | [] => .empty
  | [branch] => branch
  | branches => .alternation branches

/-- Whether a repetition may follow: nothing and a change of flags cannot be repeated. -/
def isRepeatable : Tree → Bool
  | .empty => false
  | .flags _ => false
  | _ => true

mutual
/-- How deeply groups, repetitions, choices, sequences and classes are nested. -/
def depth : Tree → Nat
  | .bracketed _ contents => contents.depth + 1
  | .repetition _ _ _ body => body.depth + 1
  | .group _ body => body.depth + 1
  | .alternation branches => depthAll branches + 1
  | .concat items => depthAll items + 1
  | _ => 0

def depthAll : List Tree → Nat
  | [] => 0
  | item :: items => max item.depth (depthAll items)
end

/-- The deepest nesting that is accepted. -/
def depthLimit : Nat := 250

end Tree

end LintRepair.Pattern
