import LintRepair.Pattern.ClassReader

/-! # Reading patterns

A pattern text is read in one pass, with a stack of the groups that enclose the place at hand.
`Tree.read?` answers the tree of a text that is a pattern, with the names of its groups.
-/

namespace LintRepair.Pattern

/-- A group whose closing parenthesis has not been read, with what stood before it. -/
structure OpenGroup where
  kind : GroupKind
  extended : Bool
  branches : List Tree
  items : List Tree

/-- What has been read of a pattern: the branches and items of the innermost open group, last first,
    the groups around it, and the capturing groups so far. -/
structure Reader where
  extended : Bool
  branches : List Tree
  items : List Tree
  outer : List OpenGroup
  captures : Nat
  names : List (String × Nat)

namespace Reader

def start : Reader := ⟨false, [], [], [], 0, []⟩

def push (s : Reader) (item : Tree) : Reader := { s with items := item :: s.items }

/-- The choice between the branches of the innermost group. -/
def body (s : Reader) : Tree :=
  Tree.ofBranches (Tree.ofItems s.items.reverse :: s.branches).reverse

def nextBranch (s : Reader) : Reader :=
  { s with branches := Tree.ofItems s.items.reverse :: s.branches, items := [] }

/-- Repeats the last item. -/
def repeat? (s : Reader) (min : Nat) (max : Option Nat) (greedy : Bool) : Option Reader :=
  match s.items with
  | item :: items =>
    if item.isRepeatable then some { s with items := .repetition min max greedy item :: items }
    else none
  | [] => none

/-- Enters a group. -/
def enter (s : Reader) (kind : GroupKind) (extended : Bool) : Reader :=
  { s with
    extended := extended, branches := [], items := []
    outer := ⟨kind, s.extended, s.branches, s.items⟩ :: s.outer }

/-- Enters a capturing group, which has the next number. -/
def capture (s : Reader) : Reader :=
  { s.enter (.capturing (s.captures + 1)) s.extended with captures := s.captures + 1 }

/-- Enters a capturing group with a name that no other group has. -/
def captureNamed? (s : Reader) (cs : List Char) : Option (Reader × List Char) := do
  let (name, rest) ← groupName? cs
  if s.names.any (·.1 == name) then none
  else return ({ s.capture with names := (name, s.captures + 1) :: s.names }, rest)

/-- What follows an opening parenthesis: a group, or flags for the rest of the group around it.
    Groups that look ahead or behind are refused. -/
def open? (s : Reader) (cs : List Char) : Option (Reader × List Char) :=
  match skip s.extended cs with
  | '?' :: '=' :: _ => none
  | '?' :: '!' :: _ => none
  | '?' :: '<' :: '=' :: _ => none
  | '?' :: '<' :: '!' :: _ => none
  | '?' :: 'P' :: '<' :: rest => s.captureNamed? rest
  | '?' :: '<' :: rest => s.captureNamed? rest
  | '?' :: rest =>
    match flags? false false [] rest with
    | none => none
    | some (change, isGroup, rest) =>
      let extended := (change.state? .extended).getD s.extended
      if isGroup then some (s.enter (.plain change) extended, rest)
      else if change.isEmpty then none
      else some ({ s.push (.flags change) with extended := extended }, rest)
  | rest => some (s.capture, rest)

/-- Leaves the innermost group. -/
def close? (s : Reader) : Option Reader :=
  match s.outer with
  | [] => none
  | group :: outer =>
    some { s with
      extended := group.extended, branches := group.branches
      items := .group group.kind s.body :: group.items, outer := outer }

/-- Reads on to the end of the text. The number bounds the steps and is larger than the length of
    the text. -/
def run : Nat → Reader → List Char → Option Reader
  | 0, _, _ => none
  | fuel + 1, s, cs =>
    match skip s.extended cs with
    | [] => some s
    | '(' :: rest => (s.open? rest).bind fun (s, rest) => run fuel s rest
    | ')' :: rest => s.close?.bind fun s => run fuel s rest
    | '|' :: rest => run fuel s.nextBranch rest
    | '[' :: rest =>
      (openClass? s.extended rest).bind fun (o, rest) =>
        (bracketed? s.extended (rest.length + 1) o [] rest).bind fun (negated, contents, rest) =>
          run fuel (s.push (.bracketed negated contents)) rest
    | '?' :: rest =>
      let (greedy, rest) := greedMark rest
      (s.repeat? 0 (some 1) greedy).bind fun s => run fuel s rest
    | '*' :: rest =>
      let (greedy, rest) := greedMark rest
      (s.repeat? 0 none greedy).bind fun s => run fuel s rest
    | '+' :: rest =>
      let (greedy, rest) := greedMark rest
      (s.repeat? 1 none greedy).bind fun s => run fuel s rest
    | '{' :: rest =>
      (counts? s.extended rest).bind fun (lo, hi, greedy, rest) =>
        (s.repeat? lo hi greedy).bind fun s => run fuel s rest
    | '\\' :: rest =>
      (escape? s.extended rest).bind fun (atom, rest) => run fuel (s.push atom.toTree) rest
    | '.' :: rest => run fuel (s.push .dot) rest
    | '^' :: rest => run fuel (s.push (.assertion .startLine)) rest
    | '$' :: rest => run fuel (s.push (.assertion .endLine)) rest
    | c :: rest => run fuel (s.push (.literal ⟨c, false⟩)) rest

end Reader

/-- A pattern as written, with the numbers of its named groups. -/
structure Source where
  tree : Tree
  names : List (String × Nat)

/-- Reads a pattern text. Every group has to be closed, and the nesting has a limit. -/
def Source.read? (text : List Char) : Option Source :=
  match Reader.run (text.length + 1) .start text with
  | none => none
  | some s =>
    if s.outer.isEmpty && s.body.depth ≤ Tree.depthLimit then some ⟨s.body, s.names⟩ else none

end LintRepair.Pattern
