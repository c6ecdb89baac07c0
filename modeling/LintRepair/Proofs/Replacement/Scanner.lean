import LintRepair.Proofs.Replacement.Edit

/-! # Going through a text

A scanner goes through a text from left to right. Where a part starts that it looks for, it puts its own
text and goes on behind the part; every other character it copies. An edit has no other effect than a
scanner that finds what the edit seeks.
-/

namespace LintRepair.Replacement

/-- What a scanner looks for and what it puts. Given the character before a place and the text from there
    on, `size?` is the length of the part that starts at the place, if one does. -/
structure Scanner where
  size? : Option Char → List Char → Option Nat
  put : List Char

namespace Scanner

variable {s : Scanner} {e : Edit} {before old gap after rest text out : List Char} {size : Nat}

/-- Goes on behind a character, after leaving out so many characters of a part. -/
def scan (s : Scanner) : Nat → Option Char → List Char → List Char
  | _, _, [] => []
  | more + 1, _, c :: rest => s.scan more (some c) rest
  | 0, last, c :: rest =>
    match s.size? last (c :: rest) with
    | some size => s.put ++ s.scan (size - 1) (some c) rest
    | none => c :: s.scan 0 (some c) rest

/-- Goes through a whole text. -/
def run (s : Scanner) (text : List Char) : List Char := s.scan 0 none text

/-- Parts that are found share no character: none starts within another. So each of them is replaced. -/
def Separates (s : Scanner) : Prop := ∀ before old after,
  s.size? before.getLast? (old ++ after) = some old.length →
    ∀ front back, old = front ++ back → front ≠ [] → back ≠ [] →
      s.size? (before ++ front).getLast? (back ++ after) = none

/-- Whether a scanner finds what an edit seeks and puts the same in its place. -/
structure Makes (s : Scanner) (e : Edit) : Prop where
  put : s.put = e.put
  finds : ∀ before rest size, s.size? before.getLast? rest = some size ↔
    ∃ f after, e.sought f ∧ rest = f.chars ++ after ∧ f.At before after ∧ size = f.chars.length

theorem scan_leaves_out (s : Scanner) (before old after : List Char) :
    s.scan old.length before.getLast? (old ++ after) =
      s.scan 0 (before ++ old).getLast? after := by
  induction old generalizing before with
  | nil => simp
  | cons c old ih =>
    have step := ih (before ++ [c])
    rw [List.getLast?_concat, List.append_assoc] at step
    exact step

/-- A part that is found is replaced. -/
theorem scan_of_found (nonempty : old ≠ [])
    (found : s.size? before.getLast? (old ++ after) = some old.length) :
    s.scan 0 before.getLast? (old ++ after) =
      s.put ++ s.scan 0 (before ++ old).getLast? after := by
  cases old with
  | nil => exact absurd rfl nonempty
  | cons c old =>
    have rest := s.scan_leaves_out (before ++ [c]) old after
    rw [List.getLast?_concat, List.append_assoc] at rest
    rw [List.cons_append] at found ⊢
    rw [scan, found]
    exact congrArg (s.put ++ ·) rest

/-- Text in which no part starts is copied. -/
theorem scan_of_idle (makes : s.Makes e) (idle : Idle e.hits before gap rest) :
    s.scan 0 before.getLast? (gap ++ rest) =
      gap ++ s.scan 0 (before ++ gap).getLast? rest := by
  induction gap generalizing before with
  | nil => simp
  | cons c gap ih =>
    have none : s.size? before.getLast? (c :: (gap ++ rest)) = none := by
      refine Option.eq_none_iff_forall_ne_some.mpr fun size found => ?_
      obtain ⟨f, after, sought, split, here, -⟩ := (makes.finds _ _ _).mp found
      refine idle [] (c :: gap) rfl (List.cons_ne_nil c gap) ?_
      rw [List.append_nil, List.cons_append, split]
      exact Edit.starts_of_at sought here
    have idle' : Idle e.hits (before ++ [c]) gap rest := by
      intro u v split nonempty
      have := idle (c :: u) v (by rw [split, List.cons_append]) nonempty
      rwa [List.append_cons] at this
    have step := ih idle'
    rw [List.getLast?_concat, List.append_assoc] at step
    rw [List.cons_append, scan, none]
    exact congrArg (c :: ·) step

/-- What an edit makes of a text after other text, a scanner makes of it. -/
theorem eq_scan_of_rewritten {ended : Bool} (makes : s.Makes e) (solid : e.Solid)
    (h : Rewritten e.hits ended before rest out) : out = s.scan 0 before.getLast? rest := by
  induction h with
  | @done _ before rest passed =>
    have idle : Idle e.hits before rest [] := by
      intro u v split nonempty
      rw [List.append_nil]
      exact (passed u v split).not_starts solid.hits
    have copied := scan_of_idle makes idle
    simpa [scan] using copied.symm
  | @hit _ before gap old after new out found _ passed _ ih =>
    have idle : Idle e.hits before gap (old ++ after) := fun u v split nonempty =>
      (passed u v split nonempty).not_starts solid.hits
    obtain ⟨f, sought, here, rfl, rfl⟩ := found
    have starts : s.size? (before ++ gap).getLast? (f.chars ++ after) = some f.chars.length :=
      (makes.finds _ _ _).mpr ⟨f, after, sought, rfl, here, rfl⟩
    rw [scan_of_idle makes idle, scan_of_found (solid f sought) starts, makes.put, ← ih]

/-- An edit makes of a text what a scanner makes of it that finds what the edit seeks. -/
theorem Makes.eq_run (makes : s.Makes e) (solid : e.Solid) (h : e.Yields text out) :
    out = s.run text := eq_scan_of_rewritten makes solid h

/-- When parts start with a character that they hold only once, they share none. -/
theorem separates_of_first {c : Char}
    (first : ∀ last text size, s.size? last text = some size → text.head? = some c)
    (once : ∀ before old after : List Char,
      s.size? before.getLast? (old ++ after) = some old.length → c ∉ old.tail) : s.Separates := by
  intro before old after found front back split frontNonempty backNonempty
  refine Option.eq_none_iff_forall_ne_some.mpr fun size again => ?_
  have head : back.head? = some c :=
    (head?_append_of_ne_nil backNonempty).symm.trans (first _ _ size again)
  refine once before old after found ?_
  rw [split, List.tail_append_of_ne_nil frontNonempty]
  exact List.mem_append_right _ (List.mem_of_mem_head? head)

/-- Looks for a text with certain characters beside it. -/
def between (left : Option Char → Prop) [DecidablePred left] (old : List Char)
    (right : Option Char → Prop) [DecidablePred right] (put : List Char) : Scanner where
  size? last text :=
    if left last ∧ old <+: text ∧ right (text.drop old.length).head? then some old.length else none
  put := put

section Between

variable {left right : Option Char → Prop} [DecidablePred left] [DecidablePred right]
  {put : List Char} {last : Option Char}

theorem size?_between_eq_some_iff : (between left old right put).size? last rest = some size ↔
    ∃ after, rest = old ++ after ∧ left last ∧ right after.head? ∧ size = old.length := by
  simp only [between, Option.ite_none_right_eq_some, Option.some.injEq]
  constructor
  · rintro ⟨⟨first, ⟨after, rfl⟩, second⟩, rfl⟩
    rw [List.drop_left] at second
    exact ⟨after, rfl, first, second, rfl⟩
  · rintro ⟨after, rfl, first, second, rfl⟩
    exact ⟨⟨first, ⟨after, rfl⟩, by rwa [List.drop_left]⟩, rfl⟩

theorem makes_between :
    (between left old right put).Makes (.replace ⟨left, old, right⟩ put) := by
  refine ⟨rfl, fun before rest size => ?_⟩
  rw [size?_between_eq_some_iff]
  constructor
  · rintro ⟨after, rfl, first, second, rfl⟩
    exact ⟨_, after, rfl, rfl, ⟨first, second⟩, rfl⟩
  · rintro ⟨_, after, rfl, rfl, ⟨first, second⟩, rfl⟩
    exact ⟨after, rfl, first, second, rfl⟩

theorem separates_between {c : Char} {tail : List Char} (hold : old = c :: tail) (once : c ∉ tail) :
    (between left old right put).Separates := by
  refine separates_of_first (c := c) (fun last text size found => ?_) fun before part after found => ?_
  · obtain ⟨_, rfl, -⟩ := size?_between_eq_some_iff.mp found
    rw [hold]
    rfl
  · obtain ⟨_, same, -, -, length⟩ := size?_between_eq_some_iff.mp found
    rw [(List.append_inj same length).1, hold]
    exact once

end Between

end Scanner

/-- Whether a scanner makes an edit. -/
structure Edit.Scannable (e : Edit) : Prop where
  solid : e.Solid
  scanner : ∃ s : Scanner, s.Makes e

end LintRepair.Replacement
