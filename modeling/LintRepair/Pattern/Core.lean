import LintRepair.Pattern.Expr

/-! # Core expressions

Expressions in which counted repetition has been written out. Each remaining construct has a fixed
piece of program, which `Program` lays out.
-/

namespace LintRepair.Pattern

open LintRepair.Text

/-- A regular expression without counts. The greedy forms prefer their body to going on. -/
inductive Core where
  | empty
  | fail
  | set (chars : CharSet)
  | look (look : Look)
  | group (index : Nat) (body : Core)
  | cat (first second : Core)
  | alt (first second : Core)
  | opt (greedy : Bool) (body : Core)
  | star (greedy : Bool) (body : Core)
  | plus (greedy : Bool) (body : Core)
  deriving Repr, Inhabited

namespace Core

/-- Copies of an expression in front of another. -/
def copies : Nat → Core → Core → Core
  | 0, _, rest => rest
  | n + 1, e, rest => copies n e (.cat e rest)

/-- At most so many copies, each of which may be left out with all that follow. -/
def upTo : Nat → Bool → Core → Core → Core
  | 0, _, _, inner => inner
  | n + 1, greedy, e, inner => upTo n greedy e (.opt greedy (.cat e inner))

/-- Repetition between bounds, or from a lower bound on. A body that can be empty is entered at
    least once before it can be left out, so that the loop around it makes progress. -/
def repeated (lo : Nat) (hi : Option Nat) (greedy needsInput : Bool) (body : Core) : Core :=
  match lo, hi with
  | 0, some 1 => .opt greedy body
  | 0, none => if needsInput then .star greedy body else .opt greedy (.plus greedy body)
  | lo + 1, none => copies lo body (.plus greedy body)
  | lo, some hi => copies lo body (upTo (hi - lo) greedy body .empty)

/-- Writes out the counts of an expression. -/
def ofExpr : Expr → Core
  | .empty => .empty
  | .fail => .fail
  | .set chars => .set chars
  | .look l => .look l
  | .group index body => .group index (ofExpr body)
  | .cat a b => .cat (ofExpr a) (ofExpr b)
  | .alt a b => .alt (ofExpr a) (ofExpr b)
  | .repeated lo hi greedy body => repeated lo hi greedy body.needsInput (ofExpr body)

/-- The number of instructions of an expression. -/
def size : Core → Nat
  | .empty => 1
  | .fail => 1
  | .set _ => 1
  | .look _ => 1
  | .group _ e => e.size + 2
  | .cat a b => a.size + b.size
  | .alt a b => a.size + b.size + 1
  | .opt _ e => e.size + 1
  | .star _ e => e.size + 1
  | .plus _ e => e.size + 1

theorem size_pos (e : Core) : 0 < e.size := by
  induction e <;> simp only [size] <;> omega

end Core

end LintRepair.Pattern
