import LintRepair.Proofs.Pattern.Matches
import LintRepair.Proofs.Pattern.Sequence

/-! # Counted repetition

The meaning of an expression is made up of the meanings of its parts. A repetition reads its body some
number of times in a row, and its bounds say no more than which numbers. An expression whose counts are
written out means the same.
-/

namespace LintRepair.Pattern

/-- A meaning: what can be read between the text before a place and the text after it, and how that
    changes the recorded positions. -/
abbrev Reading := List Char → List Char → List Char → Slots → Slots → Prop

namespace Reading

/-- Nothing is read. -/
def nothing : Reading := fun _ read _ s s' => read = [] ∧ s' = s

/-- One part is read and another directly after it. -/
def andThen (a b : Reading) : Reading := fun before read after s s' =>
  ∃ first second s₁, read = first ++ second ∧ a before first (second ++ after) s s₁ ∧
    b (before ++ first) second after s₁ s'

/-- A part is read or left out. -/
def optional (a : Reading) : Reading := fun before read after s s' =>
  nothing before read after s s' ∨ a before read after s s'

/-- Parts are read so many times in a row. -/
def times (a : Reading) : Nat → Reading
  | 0 => nothing
  | n + 1 => a.andThen (a.times n)

/-- Parts are read in a row, how often is between bounds. An upper bound below the lower one counts as
    the lower one. -/
def repeated (a : Reading) (lo : Nat) (hi : Option Nat) : Reading := fun before read after s s' =>
  ∃ n, lo ≤ n ∧ (∀ most ∈ hi, n ≤ max lo most) ∧ a.times n before read after s s'

variable {a b c : Reading} {lo n : Nat} {hi : Option Nat}

theorem nothing_andThen (a : Reading) : nothing.andThen a = a := by
  funext before read after s s'
  apply propext
  constructor
  · rintro ⟨_, second, _, rfl, ⟨rfl, rfl⟩, h⟩
    simpa using h
  · intro h
    exact ⟨[], read, s, rfl, ⟨rfl, rfl⟩, by simpa using h⟩

theorem andThen_nothing (a : Reading) : a.andThen nothing = a := by
  funext before read after s s'
  apply propext
  constructor
  · rintro ⟨first, _, _, rfl, h, rfl, rfl⟩
    simpa using h
  · intro h
    exact ⟨read, [], s', (List.append_nil read).symm, h, rfl, rfl⟩

theorem andThen_assoc (a b c : Reading) : (a.andThen b).andThen c = a.andThen (b.andThen c) := by
  funext before read after s s'
  apply propext
  constructor
  · rintro ⟨_, third, s₂, rfl, ⟨first, second, s₁, rfl, ha, hb⟩, hc⟩
    rw [← List.append_assoc] at ha hc
    exact ⟨first, second ++ third, s₁, List.append_assoc .., ha, second, third, s₂, rfl, hb, hc⟩
  · rintro ⟨first, _, s₁, rfl, ha, second, third, s₂, rfl, hb, hc⟩
    rw [List.append_assoc] at ha hc
    exact ⟨first ++ second, third, s₂, (List.append_assoc ..).symm,
      ⟨first, second, s₁, rfl, ha, hb⟩, hc⟩

theorem times_add (a : Reading) (m n : Nat) : a.times (m + n) = (a.times m).andThen (a.times n) := by
  induction m with
  | zero => rw [Nat.zero_add, times, nothing_andThen]
  | succ m ih => rw [Nat.succ_add, times, times, ih, andThen_assoc]

theorem times_one (a : Reading) : a.times 1 = a := andThen_nothing a

/-- Copies in front of a repetition raise both of its bounds. -/
theorem times_andThen_repeated (a : Reading) (k lo : Nat) (hi : Option Nat) :
    (a.times k).andThen (a.repeated lo hi) = a.repeated (k + lo) (hi.map (k + ·)) := by
  funext before read after s s'
  apply propext
  constructor
  · rintro ⟨first, second, s₁, rfl, front, n, lower, upper, back⟩
    refine ⟨k + n, Nat.add_le_add_left lower k, fun most hmost => ?_, ?_⟩
    · obtain ⟨limit, hlimit, rfl⟩ := Option.map_eq_some_iff.mp hmost
      have := upper limit hlimit
      omega
    · rw [times_add]
      exact ⟨first, second, s₁, rfl, front, back⟩
  · rintro ⟨n, lower, upper, h⟩
    obtain ⟨m, rfl⟩ : ∃ m, n = k + m := ⟨n - k, by omega⟩
    rw [times_add] at h
    obtain ⟨first, second, s₁, rfl, front, back⟩ := h
    refine ⟨first, second, s₁, rfl, front, m, by omega, fun most hmost => ?_, back⟩
    have := upper (k + most) (Option.mem_map_of_mem _ hmost)
    omega

theorem optional_repeated (room : ∀ most ∈ hi, 1 ≤ most) :
    (a.repeated 1 hi).optional = a.repeated 0 hi := by
  funext before read after s s'
  apply propext
  constructor
  · rintro (none | ⟨n, -, upper, h⟩)
    · exact ⟨0, Nat.le_refl 0, fun _ _ => Nat.zero_le _, none⟩
    · refine ⟨n, Nat.zero_le n, fun most hmost => ?_, h⟩
      have := upper most hmost
      have := room most hmost
      omega
  · rintro ⟨n, -, upper, h⟩
    cases n with
    | zero => exact .inl h
    | succ n =>
      refine .inr ⟨n + 1, Nat.le_add_left 1 n, fun most hmost => ?_, h⟩
      have := upper most hmost
      omega

theorem repeated_one_one (a : Reading) : a.repeated 1 (some 1) = a := by
  funext before read after s s'
  apply propext
  constructor
  · rintro ⟨n, lower, upper, h⟩
    have most := upper 1 rfl
    obtain rfl : n = 1 := by omega
    rwa [times_one] at h
  · intro h
    exact ⟨1, Nat.le_refl 1, by simp, by rwa [times_one]⟩

/-- A first round leaves one round less to go. -/
theorem andThen_repeated (a : Reading) (hi : Option Nat) :
    a.andThen (a.repeated 0 hi) = a.repeated 1 (hi.map (1 + ·)) := by
  rw [← times_andThen_repeated a 1 0 hi, times_one]

theorem repeated_clamp (a : Reading) (lo hi : Nat) :
    a.repeated lo (some (lo + (hi - lo))) = a.repeated lo (some hi) := by
  have same : max lo (lo + (hi - lo)) = max lo hi := by omega
  funext before read after s s'
  simp only [repeated, Option.mem_def, Option.some.injEq, forall_eq', same]

/-- A part of a text is a match of a meaning: it can be read there, with nothing recorded before, and
    what is recorded then are its groups. -/
def Matches (a : Reading) (text : List Char) (m : Span) : Prop :=
  ∃ before read after, text = before ++ (read ++ after) ∧ m.start = before.length ∧
    m.stop = (before ++ read).length ∧ a before read after [] m.slots

/-- Some match starts at a position. -/
def StartsAt (a : Reading) (text : List Char) (i : Nat) : Prop := ∃ m, a.Matches text m ∧ m.start = i

/-- Some match at a position is empty. -/
def EmptyAt (a : Reading) (text : List Char) (i : Nat) : Prop :=
  ∃ m, a.Matches text m ∧ m.start = i ∧ m.stop = i

end Reading

/-- The meaning of an expression. -/
def Expr.meaning : Expr → Reading
  | .empty => .nothing
  | .fail => fun _ _ _ _ _ => False
  | .set chars => fun _ read _ s s' => (∃ c, chars.contains c = true ∧ read = [c]) ∧ s' = s
  | .look l => fun before read after s s' =>
    l.between before.getLast? after.head? = true ∧ read = [] ∧ s' = s
  | .group index e => fun before read after s s' =>
    ∃ s₁, e.meaning before read after ((2 * index, before.length) :: s) s₁ ∧
      s' = (2 * index + 1, (before ++ read).length) :: s₁
  | .cat a b => a.meaning.andThen b.meaning
  | .alt a b => fun before read after s s' =>
    a.meaning before read after s s' ∨ b.meaning before read after s s'
  | .repeated lo hi _ e => e.meaning.repeated lo hi

namespace Core

variable {a b e inner rest : Core} {m n : Nat} {greedy : Bool}

/-- The meaning of an expression without counts. -/
def meaning (e : Core) : Reading := e.Reads

theorem meaning_empty : empty.meaning = .nothing := by
  funext before read after s s'
  exact propext reads_sequence_nil_iff

theorem meaning_cat : (cat a b).meaning = a.meaning.andThen b.meaning := by
  funext before read after s s'
  exact propext reads_cat_iff

theorem meaning_opt : (opt greedy e).meaning = e.meaning.optional := by
  funext before read after s s'
  apply propext
  constructor
  · intro h
    cases h with
    | optNone => exact .inl ⟨rfl, rfl⟩
    | optSome body => exact .inr body
  · rintro (⟨rfl, rfl⟩ | body)
    · exact .optNone
    · exact .optSome body

theorem meaning_plus : (plus greedy e).meaning = e.meaning.repeated 1 none := by
  funext before read after s s'
  apply propext
  constructor
  · intro h
    change Reads _ _ _ _ _ _ at h
    generalize he : plus greedy e = loop at h
    induction h with
    | plusOnce body =>
      cases he
      exact ⟨1, Nat.le_refl 1, nofun, by rwa [Reading.times_one]⟩
    | plusMore body _ _ ih =>
      cases he
      obtain ⟨n, -, -, rounds⟩ := ih rfl
      exact ⟨n + 1, Nat.le_add_left 1 n, nofun, _, _, _, rfl, body, rounds⟩
    | _ => cases he
  · rintro ⟨n, lower, -, rounds⟩
    induction n generalizing before read s with
    | zero => exact absurd lower (Nat.not_succ_le_zero 0)
    | succ n ih =>
      obtain ⟨first, second, s₁, rfl, body, rounds⟩ := rounds
      cases n with
      | zero =>
        obtain ⟨rfl, rfl⟩ := rounds
        rw [List.append_nil]
        exact .plusOnce body
      | succ n => exact .plusMore body (ih _ _ _ (Nat.le_add_left 1 n) rounds)

theorem meaning_star : (star greedy e).meaning = e.meaning.repeated 0 none := by
  funext before read after s s'
  apply propext
  constructor
  · intro h
    change Reads _ _ _ _ _ _ at h
    generalize he : star greedy e = loop at h
    induction h with
    | starNone => exact ⟨0, Nat.le_refl 0, nofun, rfl, rfl⟩
    | starMore body _ _ ih =>
      cases he
      obtain ⟨n, -, -, rounds⟩ := ih rfl
      exact ⟨n + 1, Nat.zero_le _, nofun, _, _, _, rfl, body, rounds⟩
    | _ => cases he
  · rintro ⟨n, -, -, rounds⟩
    induction n generalizing before read s with
    | zero =>
      obtain ⟨rfl, rfl⟩ := rounds
      exact .starNone
    | succ n ih =>
      obtain ⟨first, second, s₁, rfl, body, rounds⟩ := rounds
      exact .starMore body (ih _ _ _ rounds)

theorem meaning_copies : (copies n e rest).meaning = (e.meaning.times n).andThen rest.meaning := by
  induction n generalizing rest with
  | zero => exact (Reading.nothing_andThen _).symm
  | succ n ih =>
    rw [copies, ih, meaning_cat, ← Reading.andThen_assoc, Reading.times_add, Reading.times_one]

theorem meaning_upTo (h : inner.meaning = e.meaning.repeated 0 (some m)) :
    (upTo n greedy e inner).meaning = e.meaning.repeated 0 (some (m + n)) := by
  induction n generalizing inner m with
  | zero => exact h
  | succ n ih =>
    have wrapped : (opt greedy (cat e inner)).meaning = e.meaning.repeated 0 (some (1 + m)) := by
      rw [meaning_opt, meaning_cat, h, Reading.andThen_repeated]
      exact Reading.optional_repeated (by simp)
    rw [upTo, ih wrapped, Nat.add_comm 1 m, Nat.add_assoc, Nat.add_comm 1 n]

/-- A repetition that is written out repeats as often as its bounds say, whether its body can be empty
    or not. -/
theorem meaning_repeated (lo : Nat) (hi : Option Nat) (greedy needsInput : Bool) (e : Core) :
    (repeated lo hi greedy needsInput e).meaning = e.meaning.repeated lo hi := by
  unfold repeated
  split
  · rw [meaning_opt, ← Reading.optional_repeated (by simp), Reading.repeated_one_one]
  · split
    · exact meaning_star
    · rw [meaning_opt, meaning_plus]
      exact Reading.optional_repeated nofun
  · rename_i lo
    rw [meaning_copies, meaning_plus]
    exact Reading.times_andThen_repeated _ lo 1 none
  · rename_i lo hi _
    have none : empty.meaning = e.meaning.repeated 0 (some 0) := by
      rw [meaning_empty]
      funext before read after s s'
      apply propext
      constructor
      · intro h
        exact ⟨0, Nat.le_refl 0, by simp, h⟩
      · rintro ⟨n, -, upper, h⟩
        obtain rfl : n = 0 := by simpa using upper 0 rfl
        exact h
    rw [meaning_copies, meaning_upTo none, Reading.times_andThen_repeated, ← Reading.repeated_clamp]
    simp

/-- An expression whose counts are written out means the same. -/
theorem meaning_ofExpr (e : Expr) : (ofExpr e).meaning = e.meaning := by
  induction e with
  | empty => exact meaning_empty
  | fail =>
    funext before read after s s'
    exact eq_false nofun
  | set chars =>
    funext before read after s s'
    exact propext reads_set_iff
  | look l =>
    funext before read after s s'
    exact propext reads_look_iff
  | group index e ih =>
    funext before read after s s'
    rw [Expr.meaning, ← ih]
    exact propext reads_group_iff
  | cat a b iha ihb => rw [ofExpr, meaning_cat, iha, ihb, Expr.meaning]
  | alt a b iha ihb =>
    funext before read after s s'
    rw [Expr.meaning, ← iha, ← ihb]
    apply propext
    constructor
    · intro h
      cases h with
      | altFirst left => exact .inl left
      | altSecond right => exact .inr right
    · rintro (left | right)
      · exact .altFirst left
      · exact .altSecond right
  | «repeated» lo hi greedy e ih => rw [ofExpr, meaning_repeated, ih, Expr.meaning]

end Core

end LintRepair.Pattern
