import LintRepair.Toml.Key
import LintRepair.Toml.Value

/-! # Tables under construction

A table can be named again only in certain ways, which depend on how it came into being. While a
document is read, its tables therefore keep their origin; `close` forgets it.
-/

namespace LintRepair.Toml

/-- How a table came into being. -/
inductive Origin where
  /-- It lies on the way to the table of a header. -/
  | implied
  /-- It lies on the way to the name in a key. -/
  | dotted
  /-- It has a header of its own, or it is the whole document. -/
  | defined
  deriving DecidableEq, Repr

/-- What stands behind a name: a value that nothing can be added to, a table, or a list of tables,
    the last of which comes first. -/
inductive Node where
  | value (v : Value)
  | table (origin : Origin) (entries : List (List Char × Node))
  | tables (last : List (List Char × Node)) (before : List (List (List Char × Node)))

/-- The contents of a table under construction. -/
abbrev Nodes := List (List Char × Node)

namespace Nodes

/-- Replaces the node of a name, or adds one. -/
def put (name : List Char) (node : Node) : Nodes → Nodes
  | [] => [(name, node)]
  | e :: es => if e.1 = name then (name, node) :: es else e :: put name node es

/-- Adds a value to a table of some origin. On the way lie tables that no header defines; the last
    one has to come from a key just if the key has a way. -/
def add? (dotted : Bool) (name : List Char) (v : Value) :
    List (List Char) → Origin → Nodes → Option Nodes
  | [], origin, es =>
    if (origin == .dotted) == dotted && (es.lookup name).isNone then some (es ++ [(name, .value v)])
    else none
  | part :: path, _, es =>
    match es.lookup part with
    | none => (add? dotted name v path .dotted []).map fun inner => es ++ [(part, .table .dotted inner)]
    | some (.value _) => none
    | some (.table .defined _) => none
    | some (.table origin inner) =>
      (add? dotted name v path origin inner).map fun inner => put part (.table origin inner) es
    | some (.tables last before) =>
      (add? dotted name v path .defined last).map fun last => put part (.tables last before) es

/-- Adds a value under a key to a table. -/
def addPair? (es : Nodes) (pair : Key × Value) : Option Nodes :=
  add? (!pair.1.path.isEmpty) pair.1.name pair.2 pair.1.path .defined es

/-- Adds values under their keys in order. -/
def addAll? (es : Nodes) (pairs : List (Key × Value)) : Option Nodes := pairs.foldlM addPair? es

/-- Changes the table at the end of the way of a header. A list of tables stands for its last one,
    and missing tables are implied. -/
def within? (change : Nodes → Option Nodes) : List (List Char) → Nodes → Option Nodes
  | [], es => change es
  | part :: path, es =>
    match es.lookup part with
    | none => (within? change path []).map fun inner => es ++ [(part, .table .implied inner)]
    | some (.value _) => none
    | some (.table origin inner) =>
      (within? change path inner).map fun inner => put part (.table origin inner) es
    | some (.tables last before) =>
      (within? change path last).map fun last => put part (.tables last before) es

/-- Defines a table by the pairs after its header. It may have been implied, but no more. -/
def define? (name : List Char) (pairs : List (Key × Value)) (es : Nodes) : Option Nodes :=
  match es.lookup name with
  | none => (addAll? [] pairs).map fun inner => es ++ [(name, .table .defined inner)]
  | some (.table .implied inner) =>
    (addAll? inner pairs).map fun inner => put name (.table .defined inner) es
  | some _ => none

/-- Appends a table to a list of tables, by the pairs after its header. -/
def append? (name : List Char) (pairs : List (Key × Value)) (es : Nodes) : Option Nodes :=
  match es.lookup name with
  | none => (addAll? [] pairs).map fun inner => es ++ [(name, .tables inner [])]
  | some (.tables last before) =>
    (addAll? [] pairs).map fun inner => put name (.tables inner (last :: before)) es
  | some _ => none

end Nodes

mutual

/-- The value that a node has come to stand for. -/
def Node.close : Node → Value
  | .value v => v
  | .table _ entries => .table (Nodes.close entries)
  | .tables last before => .array (closeAll before [.table (Nodes.close last)])

/-- The entries of a finished table. -/
def Nodes.close : List (List Char × Node) → Entries
  | [] => []
  | (name, node) :: es => (name, node.close) :: Nodes.close es

/-- Puts finished tables, the last of which comes first, in front of others. -/
def closeAll : List (List (List Char × Node)) → List Value → List Value
  | [], vs => vs
  | es :: before, vs => closeAll before (.table (Nodes.close es) :: vs)

end

end LintRepair.Toml
