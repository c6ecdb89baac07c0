/-! # Replacement templates

A template is text with references to the groups of a match: a dollar sign followed by a name of
letters, digits and underscores, or by any name in braces. Two dollar signs stand for one; a dollar
sign with no reference after it stands for itself.
-/

namespace LintRepair.Replacement

/-- A reference to a group by its number or name. -/
inductive Reference where
  | byNumber (index : Nat)
  | byName (name : String)
  deriving DecidableEq, Repr

/-- A part of a template. -/
inductive Part where
  | char (c : Char)
  | group (ref : Reference)
  deriving DecidableEq, Repr

/-- Numbers of groups are below this bound; larger ones are names. -/
def numberLimit : Nat := Nat.pow 2 64

/-- The value of decimal digits, if there are any and nothing else. -/
def decimal? (cs : List Char) : Option Nat :=
  if cs.isEmpty || !cs.all Char.isDigit then none
  else some (cs.foldl (fun n c => n * 10 + (c.toNat - '0'.toNat)) 0)

/-- A reference by number if the name is a number, which may have a plus sign. -/
def Reference.ofName (name : List Char) : Reference :=
  let digits := match name with
    | '+' :: rest => rest
    | _ => name
  match decimal? digits with
  | some n => if n < numberLimit then .byNumber n else .byName (String.ofList name)
  | none => .byName (String.ofList name)

/-- The characters of names that stand without braces. -/
def isNameChar (c : Char) : Bool := c.isAlphanum || c == '_'

/-- The parts of a template text. The number bounds them and is at least the length of the text. -/
def partsOf : Nat → List Char → List Part
  | 0, _ => []
  | _ + 1, [] => []
  | fuel + 1, '$' :: '$' :: rest => .char '$' :: partsOf fuel rest
  | fuel + 1, '$' :: '{' :: rest =>
    match rest.span (· != '}') with
    | (name, '}' :: after) => .group (.ofName name) :: partsOf fuel after
    | _ => .char '$' :: partsOf fuel ('{' :: rest)
  | fuel + 1, '$' :: rest =>
    match rest.span isNameChar with
    | ([], _) => .char '$' :: partsOf fuel rest
    | (name, after) => .group (.ofName name) :: partsOf fuel after
  | fuel + 1, c :: rest => .char c :: partsOf fuel rest

/-- The parts of a template. -/
def parts (template : List Char) : List Part := partsOf template.length template

/-- Writes a text as a template that stands for it. -/
def escape : List Char → List Char
  | [] => []
  | c :: rest => if c = '$' then '$' :: '$' :: escape rest else c :: escape rest

end LintRepair.Replacement
