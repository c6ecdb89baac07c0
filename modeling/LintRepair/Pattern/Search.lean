import LintRepair.Pattern.Marks
import LintRepair.Pattern.Program

/-! # Searching

A search follows a program from each position of a text in turn. From one position it tries the
alternatives in their order of preference and goes back when one fails; an instruction that has
been tried at a position is not tried there again, so the work is bounded by the size of the program
times the length of the text. The first acceptance is the match: it starts furthest left, and among
the matches from there it is the preferred one.
-/

namespace LintRepair.Pattern

/-- Recorded positions, the latest first. -/
abbrev Slots := List (Nat × Nat)

/-- A place in the program and in the text, with what has been recorded on the way. -/
structure Thread where
  inst : Nat
  pos : Nat
  slots : Slots

/-- The threads that a thread goes on as, in order of preference. -/
def Thread.next (p : Program) (text : Array Char) (th : Thread) : List Thread :=
  match p[th.inst]? with
  | some (.take chars next) =>
    match text[th.pos]? with
    | some c => if chars.contains c then [⟨next, th.pos + 1, th.slots⟩] else []
    | none => []
  | some (.look look next) => if look.holds text th.pos then [⟨next, th.pos, th.slots⟩] else []
  | some (.save slot next) => [⟨next, th.pos, (slot, th.pos) :: th.slots⟩]
  | some (.jump next) => [⟨next, th.pos, th.slots⟩]
  | some (.fork first second) => [⟨first, th.pos, th.slots⟩, ⟨second, th.pos, th.slots⟩]
  | some .fail => []
  | some .accept => []
  | none => []

theorem Thread.length_next_le (p : Program) (text : Array Char) (th : Thread) :
    (th.next p text).length ≤ 2 := by
  unfold next
  split
  · split
    · split <;> simp
    · simp
  · split <;> simp
  all_goals simp

/-- Whether a thread stands at acceptance. -/
def Thread.isAccepted (p : Program) (th : Thread) : Bool :=
  match p[th.inst]? with
  | some .accept => true
  | _ => false

/-- The cell of a place. -/
def Thread.cell (p : Program) (th : Thread) : Nat := th.pos * p.size + th.inst

/-- Follows the threads of a stack, the first first, until one is accepted. -/
def explore (p : Program) (text : Array Char) (stack : List Thread) (marks : Marks) :
    Option Thread × Marks :=
  match stack with
  | [] => (none, marks)
  | th :: rest =>
    if _h : marks.isMarked (th.cell p) then explore p text rest marks
    else if th.isAccepted p then (some th, marks.mark (th.cell p))
    else explore p text (th.next p text ++ rest) (marks.mark (th.cell p))
termination_by 2 * marks.unmarked + stack.length
decreasing_by
  · simp only [List.length_cons]
    omega
  · have hlt := Marks.unmarked_mark_lt (show marks.isMarked (th.cell p) = false by simpa using _h)
    have hle := th.length_next_le p text
    simp only [List.length_append, List.length_cons]
    omega

/-- The part of a text that a match covers, with the positions recorded for its groups. -/
structure Span where
  start : Nat
  stop : Nat
  slots : Slots

/-- The position last recorded in a slot. -/
def Span.slot? (m : Span) (slot : Nat) : Option Nat :=
  (m.slots.find? (·.1 == slot)).map (·.2)

/-- The part of the text that a group matched last. The group with number zero is the whole. -/
def Span.group? (m : Span) : Nat → Option (Nat × Nat)
  | 0 => some (m.start, m.stop)
  | index => do return (← m.slot? (2 * index), ← m.slot? (2 * index + 1))

/-- Tries so many positions from one on. -/
def searchFrom (p : Program) (text : Array Char) : Nat → Nat → Marks → Option Span × Marks
  | 0, _, marks => (none, marks)
  | count + 1, start, marks =>
    match explore p text [⟨0, start, []⟩] marks with
    | (some th, marks) => (some ⟨start, th.pos, th.slots⟩, marks)
    | (none, marks) => searchFrom p text count (start + 1) marks

/-- The first match that starts at a position or after it. -/
def search (p : Program) (text : Array Char) (start : Nat) (marks : Marks) :
    Option Span × Marks :=
  searchFrom p text (text.size + 1 - start) start marks.clear

/-- Marks for searching a text. -/
def Program.marksFor (p : Program) (text : Array Char) : Marks :=
  .none (p.size * (text.size + 1))

/-- The matches from a position on, which do not overlap. An empty match at the end of the match
    before it is passed over, and the search goes on at the next position. The number bounds the
    matches. -/
def spansFrom (p : Program) (text : Array Char) :
    Nat → Option Nat → Nat → Marks → List Span
  | 0, _, _, _ => []
  | fuel + 1, lastStop, start, marks =>
    match search p text start marks with
    | (none, _) => []
    | (some m, marks) =>
      if m.start = m.stop ∧ lastStop = some m.stop then
        match search p text (start + 1) marks with
        | (none, _) => []
        | (some m, marks) => m :: spansFrom p text fuel (some m.stop) m.stop marks
      else m :: spansFrom p text fuel (some m.stop) m.stop marks

/-- All matches in a text from left to right. -/
def spans (p : Program) (text : Array Char) : List Span :=
  spansFrom p text (text.size + 2) none 0 (p.marksFor text)

end LintRepair.Pattern
