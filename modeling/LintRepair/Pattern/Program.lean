import LintRepair.Pattern.Core

/-! # Programs

A program is an array of instructions, each of which names the instructions that may come next in
order of preference. An expression is laid out from an address on, with a given address to go to
after a match; the layout of an expression takes `Core.size` instructions and starts at its first.
-/

namespace LintRepair.Pattern

open LintRepair.Text

/-- One instruction. `save` records the position in a slot; each group has a slot for its start and
    one for its end. `fork` prefers its first target. -/
inductive Inst where
  | take (chars : CharSet) (next : Nat)
  | look (look : Look) (next : Nat)
  | save (slot : Nat) (next : Nat)
  | jump (next : Nat)
  | fork (first second : Nat)
  | fail
  | accept
  deriving Inhabited

/-- A program that starts at its first instruction. -/
abbrev Program := Array Inst

/-- A fork between a body and going on, the body first when greedy. -/
def forkFor (greedy : Bool) (body next : Nat) : Inst :=
  if greedy then .fork body next else .fork next body

/-- Appends the layout of an expression that goes on at the given address. -/
def Core.emit : Core → Nat → Program → Program
  | .empty, next, code => code.push (.jump next)
  | .fail, _, code => code.push .fail
  | .set chars, next, code => code.push (.take chars next)
  | .look l, next, code => code.push (.look l next)
  | .group index e, next, code =>
    let start := code.size + 1
    (e.emit (start + e.size) (code.push (.save (2 * index) start))).push
      (.save (2 * index + 1) next)
  | .cat a b, next, code => b.emit next (a.emit (code.size + a.size) code)
  | .alt a b, next, code =>
    let start := code.size + 1
    b.emit next (a.emit next (code.push (.fork start (start + a.size))))
  | .opt greedy e, next, code =>
    e.emit next (code.push (forkFor greedy (code.size + 1) next))
  | .star greedy e, next, code =>
    e.emit code.size (code.push (forkFor greedy (code.size + 1) next))
  | .plus greedy e, next, code =>
    (e.emit (code.size + e.size) code).push (forkFor greedy code.size next)

/-- The program of an expression: its layout, then acceptance. -/
def Program.ofCore (e : Core) : Program := (e.emit e.size #[]).push .accept

end LintRepair.Pattern
