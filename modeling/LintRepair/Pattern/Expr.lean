import LintRepair.Pattern.Look
import LintRepair.Text.CharSet

/-! # Expressions

The meaning of a pattern, without flags and names. The functions that build sequences and choices
keep a normal form: a sequence holds no empty part and is grouped to the right, and the parts with
which all branches of a choice of sequences begin are taken out in front of it.
-/

namespace LintRepair.Pattern

open LintRepair.Text

/-- A regular expression with captures and counted repetition. -/
inductive Expr where
  | empty
  | fail
  | set (chars : CharSet)
  | look (look : Look)
  | group (index : Nat) (body : Expr)
  | cat (first second : Expr)
  | alt (first second : Expr)
  | repeated (min : Nat) (max : Option Nat) (greedy : Bool) (body : Expr)
  deriving DecidableEq, Repr, Inhabited

namespace Expr

/-- An expression for one character. -/
def char (c : Char) : Expr := .set (.singleton c)

/-- A set of characters as an expression; the empty set matches nothing. -/
def ofSet (chars : CharSet) : Expr := if chars.isEmpty then .fail else .set chars

/-- The parts of a sequence. -/
def parts : Expr → List Expr
  | .empty => []
  | .cat a b => a.parts ++ b.parts
  | e => [e]

/-- Parts without empty ones and sequences among them, put in sequence. -/
def ofParts : List Expr → Expr
  | [] => .empty
  | [e] => e
  | e :: es => .cat e (ofParts es)

/-- Expressions in sequence. -/
def concat (es : List Expr) : Expr := ofParts (es.flatMap parts)

/-- The branches of a choice. -/
def branches : Expr → List Expr
  | .alt a b => a.branches ++ b.branches
  | e => [e]

/-- A choice between branches. -/
def ofBranches : List Expr → Expr
  | [] => .fail
  | [e] => e
  | e :: es => .alt e (ofBranches es)

/-- The parts that two sequences begin with. -/
def sharedPrefix : List Expr → List Expr → List Expr
  | a :: as, b :: bs => if a = b then a :: sharedPrefix as bs else []
  | _, _ => []

/-- The parts that all of the sequences begin with. -/
def sharedPrefixAll : List (List Expr) → List Expr
  | [] => []
  | s :: ss => ss.foldl sharedPrefix s

/-- The number of constructors. -/
def nodes : Expr → Nat
  | .group _ e => e.nodes + 1
  | .cat a b => a.nodes + b.nodes + 1
  | .alt a b => a.nodes + b.nodes + 1
  | .repeated _ _ _ e => e.nodes + 1
  | _ => 1

/-- The set of a set expression. -/
def set? : Expr → Option CharSet
  | .set chars => some chars
  | _ => none

/-- The one set that stands for a choice between single characters, or between larger sets. -/
def mergedSet? (es : List Expr) : Option CharSet := do
  let sets ← es.mapM set?
  if sets.all (·.isSingle) || sets.all (!·.isSingle) then
    return .ofRanges (sets.flatMap (·.ranges))
  else none

/-- A choice between branches. Sets of characters become one set, and what all branches begin with
    is taken out. The latter is done only when each branch is a sequence of several parts, and again
    for what remains of them. The number bounds the rounds. -/
def choice : Nat → List Expr → Expr
  | 0, es => ofBranches es
  | fuel + 1, es =>
    let es := es.flatMap branches
    if es.length ≤ 1 then ofBranches es
    else match mergedSet? es with
      | some chars => .set chars
      | none =>
        let sequences := es.map parts
        let shared := sharedPrefixAll sequences
        if shared.isEmpty || sequences.any (·.length ≤ 1) then ofBranches es
        else
          let remains := sequences.map fun s => ofParts (s.drop shared.length)
          concat (shared ++ [choice fuel remains])

/-- A choice between expressions, the earlier ones preferred. -/
def alternation (es : List Expr) : Expr :=
  choice ((es.map nodes).foldl (· + ·) 1) es

/-- The least number of characters that a match can have, if there can be a match. -/
def minLength : Expr → Option Nat
  | .empty => some 0
  | .fail => none
  | .set _ => some 1
  | .look _ => some 0
  | .group _ e => e.minLength
  | .cat a b => match a.minLength, b.minLength with
    | some m, some n => some (m + n)
    | _, _ => none
  | .alt a b => match a.minLength, b.minLength with
    | some m, some n => some (min m n)
    | _, _ => none
  | .repeated lo _ _ e => e.minLength.map (lo * ·)

/-- Whether every match is empty, and there can be one. -/
def isZeroWidth : Expr → Bool
  | .empty => true
  | .fail => false
  | .set _ => false
  | .look _ => true
  | .group _ e => e.isZeroWidth
  | .cat a b => a.isZeroWidth && b.isZeroWidth
  | .alt a b => a.isZeroWidth && b.isZeroWidth
  | .repeated _ _ _ e => e.isZeroWidth

/-- Whether no match is empty. -/
def needsInput (e : Expr) : Bool :=
  match e.minLength with
  | some n => n > 0
  | none => false

/-- A repetition. More than one copy of what matches no characters is no different from one. -/
def repeatOf (lo : Nat) (hi : Option Nat) (greedy : Bool) (body : Expr) : Expr :=
  let (lo, hi) : Nat × Option Nat :=
    if body.isZeroWidth then (min lo 1, some (match hi with | some n => min n 1 | none => 1))
    else (lo, hi)
  if lo = 0 ∧ hi = some 0 then .empty
  else if lo = 1 ∧ hi = some 1 then body
  else .repeated lo hi greedy body

/-- The size of the automaton of a set, in bytes. A single character has a state for each of its bytes.
    Other sets are estimated: each range beyond the seven-bit characters may need states of its own. -/
def setCost (chars : CharSet) : Nat :=
  match chars.single? with
  | some c => 32 * c.utf8Size
  | none => chars.ranges.foldl (fun cost r => cost + if r.2 < 128 then 8 else 60) 64

/-- The size of the automaton of an expression, in bytes, as it stands in a larger one. It is exact for
    sequences of characters and looks, and estimated for choices and repetitions. -/
def partCost : Expr → Nat
  | .empty => 32
  | .fail => 32
  | .set chars => setCost chars
  | .look _ => 32
  | .group _ e => e.partCost + 64
  | .cat a b => a.partCost + b.partCost
  | .alt a b => a.partCost + b.partCost + 40
  | .repeated lo hi _ e =>
    match hi with
    | none => max lo 1 * e.partCost + 80
    | some hi => hi * e.partCost + (hi - lo) * 40 + 32

/-- The size of the automaton that searches for an expression: it also skips what is in front of a match
    and marks both ends. -/
def cost (e : Expr) : Nat := e.partCost + 208

/-- The largest size of an automaton that is accepted: ten mebibytes. -/
def costLimit : Nat := 10 * 1024 * 1024

end Expr

end LintRepair.Pattern
