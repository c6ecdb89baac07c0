import LintRepair.Toml.Quoted

/-! # Keys

A key is one or more parts with dots between them. A part is written bare or as a quoted text on one
line.
-/

namespace LintRepair.Toml

/-- A key: the tables on the way and the name in the last of them. -/
structure Key where
  path : List (List Char)
  name : List Char
  deriving DecidableEq, Repr

namespace Key

/-- A key of one part. -/
def ofName (name : List Char) : Key := ⟨[], name⟩

/-- Puts a part in front of a key. -/
def below (part : List Char) (k : Key) : Key := ⟨part :: k.path, k.name⟩

/-- The largest number of parts. -/
def partLimit : Nat := 80

/-- Whether a character may stand in a part without quotes. -/
def isBare (c : Char) : Bool := c.isAlphanum || c == '-' || c == '_'

/-- One part of a key, and what stands after it. -/
def part? : List Char → Option (List Char × List Char)
  | [] => none
  | c :: rest =>
    match Quoting.ofMark? c with
    | some q => oneLine? q 0 rest
    | none => if isBare c then some ((c :: rest).span isBare) else none

/-- A key of at most so many parts, and what stands after it and the spaces behind it. -/
def read? : Nat → List Char → Option (Key × List Char)
  | 0, _ => none
  | parts + 1, cs =>
    match part? cs with
    | none => none
    | some (part, rest) =>
      match skipSpaces rest with
      | '.' :: rest => (read? parts (skipSpaces rest)).map fun (k, rest) => (k.below part, rest)
      | rest => some (.ofName part, rest)

end Key

end LintRepair.Toml
