import LintRepair.Toml.Reader

/-! # Documents

A document is a list of lines: pairs, headers of tables and headers of listed tables. The pairs after
a header belong to its table.
-/

namespace LintRepair.Toml

/-- What a line of a document says. -/
inductive Statement where
  | pair (key : Key) (v : Value)
  | table (key : Key)
  | listed (key : Key)

namespace Statement

/-- A header without its first bracket, and what stands after its line. -/
def header? (cs : List Char) : Option (Statement × List Char) :=
  match cs with
  | '[' :: rest =>
    match Key.read? Key.partLimit (skipSpaces rest) with
    | some (k, ']' :: ']' :: rest) => (lineEnd? rest).map fun rest => (.listed k, rest)
    | _ => none
  | rest =>
    match Key.read? Key.partLimit (skipSpaces rest) with
    | some (k, ']' :: rest) => (lineEnd? rest).map fun rest => (.table k, rest)
    | _ => none

/-- A pair, and what stands after its last line. -/
def pair? (cs : List Char) : Option (Statement × List Char) :=
  match Key.read? Key.partLimit cs with
  | some (k, '=' :: rest) =>
    match value? depthLimit (skipSpaces rest) with
    | some (v, rest) => (lineEnd? rest).map fun rest => (.pair k v, rest)
    | none => none
  | _ => none

/-- The next statement, and what stands after it. -/
def read? (cs : List Char) : Option (Statement × List Char) :=
  match cs with
  | '[' :: rest => header? rest
  | cs => pair? cs

/-- All statements of a text. The number bounds how many there are. -/
def readAll? : Nat → List Char → Option (List Statement)
  | 0, _ => none
  | fuel + 1, cs =>
    match skipBlank false cs with
    | [] => some []
    | cs =>
      match read? cs with
      | some (s, rest) => (readAll? fuel rest).map (s :: ·)
      | none => none

end Statement

/-- A header with the pairs that belong to it. -/
structure Section where
  isListed : Bool
  key : Key
  pairs : List (Key × Value)

/-- The pairs before the first header, and the sections. -/
def sections : List Statement → List (Key × Value) × List Section
  | [] => ([], [])
  | s :: rest =>
    let (pairs, others) := sections rest
    match s with
    | .pair k v => ((k, v) :: pairs, others)
    | .table k => ([], ⟨false, k, pairs⟩ :: others)
    | .listed k => ([], ⟨true, k, pairs⟩ :: others)

/-- Adds a section to a document. -/
def Nodes.addSection? (es : Nodes) (s : Section) : Option Nodes :=
  let change := if s.isListed then append? s.key.name s.pairs else define? s.key.name s.pairs
  within? change s.key.path es

namespace Document

/-- A mark of the order of bytes may stand at the beginning. -/
def skipMark : List Char → List Char
  | '\ufeff' :: rest => rest
  | cs => cs

/-- The entries of the table that statements make up. -/
def ofStatements? (statements : List Statement) : Option Entries :=
  let (pairs, others) := sections statements
  match Nodes.addAll? [] pairs with
  | some es => (others.foldlM Nodes.addSection? es).map Nodes.close
  | none => none

/-- The entries of the table that a text describes. -/
def read? (text : List Char) : Option Entries :=
  let cs := skipMark text
  match Statement.readAll? (cs.length + 1) cs with
  | some statements => ofStatements? statements
  | none => none

end Document

end LintRepair.Toml
