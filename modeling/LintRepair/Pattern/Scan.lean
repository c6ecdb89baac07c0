import LintRepair.Text.Digit
import LintRepair.Text.Property
import LintRepair.Pattern.Tree

/-! # The small parts of a pattern text

Reading the pieces from which patterns are put together: blanks and comments, counts, characters
written as numbers, escapes, flags and group names. Each function takes the text that is left and
answers what it read and the text after it, or nothing when the text is no pattern.

In the extended mode, named `x` here as in the flag, blanks and comments may stand between most
characters and do not count.
-/

namespace LintRepair.Pattern

open LintRepair.Text

/-- Drops blanks and comments; a comment runs from `#` to the end of its line. -/
def skipBlanks (inComment : Bool) : List Char → List Char
  | [] => []
  | c :: rest =>
    if inComment then skipBlanks (c != '\n') rest
    else if isWhiteSpace c then skipBlanks false rest
    else if c == '#' then skipBlanks true rest
    else c :: rest

/-- Drops what does not count in the extended mode. -/
def skip (x : Bool) (cs : List Char) : List Char :=
  if x then skipBlanks false cs else cs

/-- The longest run of characters that satisfy a test, with skipping after each of them. The number
    bounds the length of the run. -/
def takeSpaced (x : Bool) (test : Char → Bool) : Nat → List Char → List Char × List Char
  | 0, cs => ([], cs)
  | _ + 1, [] => ([], [])
  | fuel + 1, c :: rest =>
    if test c then
      let (taken, rest) := takeSpaced x test fuel (skip x rest)
      (c :: taken, rest)
    else ([], c :: rest)

/-- A run of characters that satisfy a test, of any length. -/
def takeRun (x : Bool) (test : Char → Bool) (cs : List Char) : List Char × List Char :=
  takeSpaced x test cs.length cs

/-- Counts, code points and the like are numbers of 32 bits. -/
def wordLimit : Nat := Nat.pow 2 32

/-- A decimal number with blanks on both sides. -/
def decimal? (x : Bool) (cs : List Char) : Option (Nat × List Char) :=
  let (digits, rest) := takeRun x Char.isDigit (cs.dropWhile isWhiteSpace)
  let n := decimalValue digits
  if digits.isEmpty || n ≥ wordLimit then none else some (n, rest.dropWhile isWhiteSpace)

/-- The question mark that makes a repetition prefer fewer copies. -/
def greedMark : List Char → Bool × List Char
  | '?' :: rest => (false, rest)
  | rest => (true, rest)

/-- Bounds on the number of copies, after the opening brace: one number, a lower bound, or both
    bounds in order. Whether the repetition is greedy comes last. -/
def counts? (x : Bool) (cs : List Char) : Option (Nat × Option Nat × Bool × List Char) := do
  let (lo, rest) ← decimal? x (skip x cs)
  match rest with
  | '}' :: rest =>
    let (greedy, rest) := greedMark (skip x rest)
    return (lo, some lo, greedy, rest)
  | ',' :: rest =>
    match skip x rest with
    | '}' :: rest =>
      let (greedy, rest) := greedMark (skip x rest)
      return (lo, none, greedy, rest)
    | rest =>
      let (hi, rest) ← decimal? x rest
      match rest with
      | '}' :: rest =>
        let (greedy, rest) := greedMark (skip x rest)
        if lo ≤ hi then return (lo, some hi, greedy, rest) else none
      | _ => none
  | _ => none

/-- A fixed number of hexadecimal digits. -/
def hexDigits? (x : Bool) : Nat → List Char → Option (List Char × List Char)
  | 0, cs => some ([], cs)
  | _ + 1, [] => none
  | n + 1, c :: rest =>
    if isHexDigit c then
      (hexDigits? x n (skip x rest)).map fun (digits, rest) => (c :: digits, rest)
    else none

/-- A character written as a number, after the letter that says how many digits it has. Any number
    of digits may stand in braces. -/
def codePoint? (x : Bool) (width : Nat) (cs : List Char) : Option (Literal × List Char) :=
  match skip x cs with
  | '{' :: rest =>
    match takeRun x isHexDigit (skip x rest) with
    | (digits, '}' :: rest) =>
      if digits.isEmpty then none
      else (scalar? (hexValue digits)).map fun c => (⟨c, false⟩, skip x rest)
    | _ => none
  | rest =>
    match hexDigits? x width rest with
    | some (digits, rest) =>
      (scalar? (hexValue digits)).map fun c => (⟨c, width == 2⟩, rest)
    | none => none

/-- Cuts a text at the first place where a separator starts. -/
def cutAt? (separator : List Char) : List Char → Option (List Char × List Char)
  | [] => none
  | c :: rest =>
    if separator.isPrefixOf (c :: rest) then some ([], (c :: rest).drop separator.length)
    else (cutAt? separator rest).map fun (before, after) => (c :: before, after)

/-- What the text between the braces of a property asks for, and whether it asks for the rest. -/
def propertyQuery (name : List Char) : Bool × PropertyQuery :=
  match cutAt? ['!', '='] name with
  | some (name, value) => (true, .valued name value)
  | none => match cutAt? [':'] name with
    | some (name, value) => (false, .valued name value)
    | none => match cutAt? ['='] name with
      | some (name, value) => (false, .valued name value)
      | none => (false, .named name)

/-- The part of a pattern that stands for one character or one condition. -/
inductive Atom where
  | literal (l : Literal)
  | dot
  | assertion (a : Assertion)
  | shorthand (negated : Bool) (kind : Shorthand)
  | property (negated : Bool) (query : PropertyQuery)

namespace Atom

def toTree : Atom → Tree
  | .literal l => .literal l
  | .dot => .dot
  | .assertion a => .assertion a
  | .shorthand n k => .shorthand n k
  | .property n q => .property n q

/-- An atom as an item of a class; conditions are none. -/
def toClass? : Atom → Option ClassTree
  | .literal l => some (.literal l)
  | .shorthand n k => some (.shorthand n k)
  | .property n q => some (.property n q)
  | .dot => none
  | .assertion _ => none

/-- An atom as an end of a range. -/
def literal? : Atom → Option Literal
  | .literal l => some l
  | _ => none

end Atom

/-- A character property, after the letter that asks for it. -/
def property? (x : Bool) (negated : Bool) (cs : List Char) : Option (Atom × List Char) :=
  match skip x cs with
  | [] => none
  | '\\' :: _ => none
  | '{' :: rest =>
    match takeRun x (· != '}') (skip x rest) with
    | (name, '}' :: rest) =>
      let (unequal, query) := propertyQuery name
      some (.property (negated != unequal) query, rest)
    | _ => none
  | c :: rest => some (.property negated (.named [c]), skip x rest)

/-- Characters with a meaning of their own in patterns. -/
def isMeta (c : Char) : Bool :=
  ['\\', '.', '+', '*', '?', '(', ')', '|', '[', ']', '{', '}', '^', '$', '#', '&', '-', '~'].contains c

/-- Characters that may be escaped without need: the seven-bit ones, but for letters, digits and
    angle brackets. -/
def isEscapable (c : Char) : Bool :=
  isMeta c || (c.toNat < 128 && !c.isAlphanum && c != '<' && c != '>')

/-- The conditions named in braces after the letter of a word boundary. Braces whose text starts
    with no letter are left for counts. -/
def boundary? (x : Bool) (cs : List Char) : Option (Assertion × List Char) :=
  match cs with
  | '{' :: rest =>
    let isLetter (c : Char) : Bool := c.isAlpha || c == '-'
    match skip x rest with
    | [] => none
    | c :: rest =>
      if isLetter c then
        match takeRun x isLetter (c :: rest) with
        | (name, '}' :: rest) =>
          if name = ['s', 't', 'a', 'r', 't'] then some (.wordStart, rest)
          else if name = ['e', 'n', 'd'] then some (.wordEnd, rest)
          else if name = ['s', 't', 'a', 'r', 't', '-', 'h', 'a', 'l', 'f'] then
            some (.wordStartHalf, rest)
          else if name = ['e', 'n', 'd', '-', 'h', 'a', 'l', 'f'] then some (.wordEndHalf, rest)
          else none
        | _ => none
      else some (.wordBoundary, cs)
  | _ => some (.wordBoundary, cs)

/-- What follows a backslash. -/
def escape? (x : Bool) : List Char → Option (Atom × List Char)
  | [] => none
  | c :: rest =>
    if isEscapable c then some (.literal ⟨c, false⟩, rest)
    else match c with
      | 'x' => (codePoint? x 2 rest).map fun (l, rest) => (.literal l, rest)
      | 'u' => (codePoint? x 4 rest).map fun (l, rest) => (.literal l, rest)
      | 'U' => (codePoint? x 8 rest).map fun (l, rest) => (.literal l, rest)
      | 'p' => property? x false rest
      | 'P' => property? x true rest
      | 'd' => some (.shorthand false .digit, rest)
      | 'D' => some (.shorthand true .digit, rest)
      | 's' => some (.shorthand false .space, rest)
      | 'S' => some (.shorthand true .space, rest)
      | 'w' => some (.shorthand false .word, rest)
      | 'W' => some (.shorthand true .word, rest)
      | 'a' => some (.literal ⟨'\x07', false⟩, rest)
      | 'f' => some (.literal ⟨'\x0c', false⟩, rest)
      | 't' => some (.literal ⟨'\t', false⟩, rest)
      | 'n' => some (.literal ⟨'\n', false⟩, rest)
      | 'r' => some (.literal ⟨'\r', false⟩, rest)
      | 'v' => some (.literal ⟨'\x0b', false⟩, rest)
      | 'A' => some (.assertion .startText, rest)
      | 'z' => some (.assertion .endText, rest)
      | 'b' => (boundary? x rest).map fun (a, rest) => (.assertion a, rest)
      | 'B' => some (.assertion .notWordBoundary, rest)
      | '<' => some (.assertion .wordStart, rest)
      | '>' => some (.assertion .wordEnd, rest)
      | _ => none

/-- The flag of a letter. -/
def Flag.ofLetter? : Char → Option Flag
  | 'i' => some .ignoreCase
  | 'm' => some .multiLine
  | 's' => some .dotAll
  | 'U' => some .swapGreed
  | 'u' => some .unicode
  | 'R' => some .crlf
  | 'x' => some .extended
  | _ => none

/-- Flags up to a colon or a closing parenthesis. After a hyphen they are switched off. None may
    come twice, and a hyphen needs a flag after it. Answers whether the flags ended with a colon. -/
def flags? (off dangling : Bool) (seen : FlagChange) :
    List Char → Option (FlagChange × Bool × List Char)
  | [] => none
  | c :: rest =>
    if c == ':' || c == ')' then
      if dangling then none else some (seen.reverse, c == ':', rest)
    else if c == '-' then
      if off then none else flags? true true seen rest
    else match Flag.ofLetter? c with
      | none => none
      | some flag =>
        if seen.any (·.1 == flag) then none else flags? off false ((flag, !off) :: seen) rest

/-- The state of a flag after a change that mentions it. -/
def FlagChange.state? (change : FlagChange) (flag : Flag) : Option Bool :=
  (change.find? (·.1 == flag)).map (·.2)

/-- Letters of all scripts. -/
def isLetter (c : Char) : Bool :=
  ((Property.find? Property.binaries "alphabetic").getD .empty).contains c

/-- Letters and numbers of all scripts. -/
def isLetterOrNumber (c : Char) : Bool :=
  isLetter c || ((Property.category? "n").getD .empty).contains c

/-- A group name up to its closing angle bracket: a letter or underscore, then also numbers, dots
    and brackets. -/
def groupName? (cs : List Char) : Option (String × List Char) :=
  match cs.span (· != '>') with
  | (first :: others, '>' :: rest) =>
    let isOther (c : Char) : Bool :=
      c == '_' || c == '.' || c == '[' || c == ']' || isLetterOrNumber c
    if (first == '_' || isLetter first) && others.all isOther then
      some (String.ofList (first :: others), rest)
    else none
  | _ => none

end LintRepair.Pattern
