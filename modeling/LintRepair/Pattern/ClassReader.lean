import LintRepair.Pattern.Scan

/-! # Reading bracketed classes

A class is read in one pass over the text, with a stack of the classes that enclose the one at hand.
-/

namespace LintRepair.Pattern

/-- The class of seven-bit characters with a name. -/
def AsciiClass.ofName? (name : List Char) : Option AsciiClass :=
  match String.ofList name with
  | "alnum" => some .alnum
  | "alpha" => some .alpha
  | "ascii" => some .ascii
  | "blank" => some .blank
  | "cntrl" => some .cntrl
  | "digit" => some .digit
  | "graph" => some .graph
  | "lower" => some .lower
  | "print" => some .print
  | "punct" => some .punct
  | "space" => some .space
  | "upper" => some .upper
  | "word" => some .word
  | "xdigit" => some .xdigit
  | _ => none

/-- A class named between colons, after its opening bracket. -/
def asciiClass? (cs : List Char) : Option (ClassTree × List Char) :=
  let named (negated : Bool) (rest : List Char) : Option (ClassTree × List Char) :=
    match rest.span (· != ':') with
    | (name, ':' :: ']' :: rest) =>
      (AsciiClass.ofName? name).map fun kind => (.ascii negated kind, rest)
    | _ => none
  match cs with
  | ':' :: '^' :: rest => named true rest
  | ':' :: rest => named false rest
  | _ => none

/-- A class whose closing bracket has not been read. The items come last first; an operator waits
    with its left side for the items to its right. -/
structure OpenClass where
  negated : Bool
  pending : Option (SetOp × ClassTree)
  items : List ClassTree

namespace OpenClass

/-- The contents read so far. -/
def contents (o : OpenClass) : ClassTree :=
  let rhs := ClassTree.ofItems o.items.reverse
  match o.pending with
  | none => rhs
  | some (kind, lhs) => .op kind lhs rhs

def push (o : OpenClass) (item : ClassTree) : OpenClass :=
  { o with items := item :: o.items }

/-- Makes what has been read the left side of an operator. -/
def operate (o : OpenClass) (kind : SetOp) : OpenClass :=
  { o with pending := some (kind, o.contents), items := [] }

end OpenClass

/-- The start of a class after its opening bracket. Hyphens there are literal, and so is a closing
    bracket that would end an empty class. -/
def openClass? (x : Bool) (cs : List Char) : Option (OpenClass × List Char) :=
  let (negated, cs) : Bool × List Char :=
    match skip x cs with
    | '^' :: rest => (true, skip x rest)
    | rest => (false, rest)
  let (hyphens, cs) := takeRun x (· == '-') cs
  let items := hyphens.map fun c => ClassTree.literal ⟨c, false⟩
  match items, cs with
  | _, [] => none
  | [], ']' :: rest => some (⟨negated, none, [.literal ⟨']', false⟩]⟩, skip x rest)
  | items, cs => some (⟨negated, none, items⟩, cs)

/-- One character or class inside brackets. -/
def classAtom? (x : Bool) : List Char → Option (Atom × List Char)
  | [] => none
  | '\\' :: rest => escape? x rest
  | c :: rest => some (.literal ⟨c, false⟩, rest)

/-- The character that follows a hyphen, blanks left out. -/
def afterHyphen (x : Bool) (cs : List Char) : Option Char :=
  if x then
    match cs.dropWhile isWhiteSpaceChar with
    | '#' :: rest => (rest.dropWhile isWhiteSpaceChar).head?
    | rest => rest.head?
  else cs.head?
where
  isWhiteSpaceChar (c : Char) : Bool := Text.isWhiteSpace c

/-- An item of a class: a range, or else a character or class by itself. A hyphen before the closing
    bracket or before another hyphen makes no range. -/
def classItem? (x : Bool) (cs : List Char) : Option (ClassTree × List Char) := do
  let (first, rest) ← classAtom? x cs
  match skip x rest with
  | [] => none
  | '-' :: after =>
    match afterHyphen x after with
    | some ']' | some '-' => return (← first.toClass?, '-' :: after)
    | _ =>
      let (second, rest) ← classAtom? x (skip x after)
      let lo ← first.literal?
      let hi ← second.literal?
      if lo.char ≤ hi.char then return (.range lo hi, rest) else none
  | rest => return (← first.toClass?, rest)

/-- The rest of a class inside the enclosing ones. The number bounds the steps and is larger than
    the length of the text. -/
def bracketed? (x : Bool) : Nat → OpenClass → List OpenClass → List Char →
    Option (Bool × ClassTree × List Char)
  | 0, _, _, _ => none
  | fuel + 1, current, outer, cs =>
    match skip x cs with
    | [] => none
    | '[' :: rest =>
      match asciiClass? rest with
      | some (item, rest) => bracketed? x fuel (current.push item) outer rest
      | none =>
        match openClass? x rest with
        | some (inner, rest) => bracketed? x fuel inner (current :: outer) rest
        | none => none
    | ']' :: rest =>
      match outer with
      | [] => some (current.negated, current.contents, rest)
      | parent :: outer =>
        bracketed? x fuel (parent.push (.bracketed current.negated current.contents)) outer rest
    | '&' :: '&' :: rest => bracketed? x fuel (current.operate .intersection) outer rest
    | '-' :: '-' :: rest => bracketed? x fuel (current.operate .difference) outer rest
    | '~' :: '~' :: rest => bracketed? x fuel (current.operate .symmetricDifference) outer rest
    | rest =>
      match classItem? x rest with
      | some (item, rest) => bracketed? x fuel (current.push item) outer rest
      | none => none

end LintRepair.Pattern
