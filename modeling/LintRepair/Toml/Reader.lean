import LintRepair.Toml.Scalar
import LintRepair.Toml.Table

/-! # Reading values

Values without brackets stand alone. Lists and inline tables hold others, down to a fixed depth; blanks,
comments and line ends may stand between their parts.
-/

namespace LintRepair.Toml

/-- A value without brackets, and what stands after it. -/
def plain? (cs : List Char) : Option (Value × List Char) :=
  match cs with
  | [] => none
  | c :: rest =>
    match Quoting.ofMark? c with
    | some q => (afterMark? q rest).map fun (text, rest) => (.text text, rest)
    | none =>
      let (chars, rest) := word (c :: rest)
      (scalar? chars).map fun v => (v, rest)

/-- A way to read a value. -/
abbrev ValueReader := List Char → Option (Value × List Char)

/-- The values of a list up to its closing bracket. The number bounds how many there are. -/
def items? (value? : ValueReader) : Nat → List Char → Option (List Value × List Char)
  | 0, _ => none
  | fuel + 1, cs =>
    match skipBlank false cs with
    | ']' :: rest => some ([], rest)
    | cs =>
      match value? cs with
      | none => none
      | some (v, rest) =>
        match skipBlank false rest with
        | ',' :: rest => (items? value? fuel rest).map fun (vs, rest) => (v :: vs, rest)
        | ']' :: rest => some ([v], rest)
        | _ => none

/-- A key and its value within an inline table. -/
def inlinePair? (value? : ValueReader) (cs : List Char) : Option ((Key × Value) × List Char) :=
  match Key.read? Key.partLimit cs with
  | none => none
  | some (k, rest) =>
    match skipBlank false rest with
    | '=' :: rest => (value? (skipBlank false rest)).map fun (v, rest) => ((k, v), rest)
    | _ => none

/-- The pairs of an inline table up to its closing brace. The number bounds how many there are. -/
def pairs? (value? : ValueReader) : Nat → List Char → Option (List (Key × Value) × List Char)
  | 0, _ => none
  | fuel + 1, cs =>
    match skipBlank false cs with
    | '}' :: rest => some ([], rest)
    | cs =>
      match inlinePair? value? cs with
      | none => none
      | some (pair, rest) =>
        match skipBlank false rest with
        | ',' :: rest => (pairs? value? fuel rest).map fun (ps, rest) => (pair :: ps, rest)
        | '}' :: rest => some ([pair], rest)
        | _ => none

/-- An inline table, finished as soon as it has been read. -/
def inlineTable? (pairs : List (Key × Value)) : Option Value :=
  (Nodes.addAll? [] pairs).map fun es => .table (Nodes.close es)

/-- A value with brackets to at most some depth, and what stands after it. -/
def value? : Nat → ValueReader
  | 0, cs =>
    match cs with
    | '[' :: _ => none
    | '{' :: _ => none
    | cs => plain? cs
  | depth + 1, cs =>
    match cs with
    | '[' :: rest =>
      (items? (value? depth) cs.length rest).map fun (vs, rest) => (.array vs, rest)
    | '{' :: rest =>
      match pairs? (value? depth) cs.length rest with
      | some (ps, rest) => (inlineTable? ps).map fun v => (v, rest)
      | none => none
    | cs => plain? cs

/-- The largest depth of lists and inline tables in each other. -/
def depthLimit : Nat := 80

end LintRepair.Toml
