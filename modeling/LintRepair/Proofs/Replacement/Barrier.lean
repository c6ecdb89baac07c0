import LintRepair.Proofs.Replacement.Independence

/-! # Characters that no edit gets past

A character parts a text for an edit when nothing that is sought lies across it and when, beside it, the
conditions of the edit hold just when they do at an end of the text. Then the edit goes through what is
before the character and through what is behind it as through texts of their own.
-/

namespace LintRepair.Replacement

namespace Edit

variable {e : Edit} {es : List Edit} {c d : Char} {a b u v text out outBefore outAfter : List Char}

/-- Something that is sought lies across a character. -/
def Crosses (e : Edit) (before : List Char) (c : Char) (after : List Char) : Prop :=
  ∃ f u v p q, e.sought f ∧ f.chars = u ++ c :: v ∧ before = p ++ u ∧ after = v ++ q ∧ f.At p q

/-- Beside the character conditions hold just when they do at an end of the text. -/
structure EndsAt (e : Edit) (c : Char) : Prop where
  left : ∀ f, e.sought f → (f.left (some c) ↔ f.left none)
  right : ∀ f, e.sought f → (f.right (some c) ↔ f.right none)

/-- Nothing that is sought has the character. -/
def Lacks (e : Edit) (c : Char) : Prop := ∀ f, e.sought f → c ∉ f.chars

theorem Lacks.not_crosses (h : e.Lacks c) : ¬e.Crosses a c b := by
  rintro ⟨f, u, v, p, q, sought, chars, -⟩
  exact h f sought (by simp [chars])

theorem EndsAt.right_append (h : e.EndsAt c) {f : Phrase} (sought : e.sought f) :
    f.right (a ++ c :: b).head? ↔ f.right a.head? := by
  cases a with
  | nil => exact h.right f sought
  | cons x a => exact Iff.rfl

/-- What a text ends with after an edit it ended with before, if nothing that is put ends so. -/
theorem suffix_of_rewritten {ended : Bool} {before : List Char}
    (h : Rewritten e.hits ended before text out) (last : e.put.getLast? = some d) (absent : d ∉ u)
    (ends : u <:+ out) : u <:+ text := by
  induction h with
  | done => exact ends
  | @hit _ before gap old after new out found _ _ _ ih =>
    obtain ⟨-, -, -, -, rfl⟩ := found
    have behind : after <:+ gap ++ (old ++ after) := ⟨gap ++ old, by simp⟩
    obtain ⟨t, split⟩ := ends
    rw [← List.append_assoc gap] at split
    rcases List.append_eq_append_iff.mp split with ⟨w, put, rfl⟩ | ⟨w, -, rfl⟩
    · rcases List.eq_nil_or_concat w with rfl | ⟨w, x, rfl⟩
      · exact (ih List.suffix_rfl).trans behind
      · have nonempty : e.put ≠ [] := fun empty => by simp [empty] at last
        have ends := congrArg List.getLast? put
        rw [getLast?_append_of_ne_nil nonempty, last, List.concat_eq_append, ← List.append_assoc,
          List.getLast?_concat] at ends
        obtain rfl := Option.some.inj ends
        exact absurd (by simp) absent
    · exact (ih (List.suffix_append w u)).trans behind

/-- What a text starts with after an edit it started with before, if nothing that is put starts so. -/
theorem prefix_of_rewritten {ended : Bool} {before : List Char}
    (h : Rewritten e.hits ended before text out) (first : e.put.head? = some d) (absent : d ∉ v)
    (starts : v <+: out) : v <+: text := by
  cases h with
  | done => exact starts
  | @hit _ _ gap old after new out found =>
    obtain ⟨-, -, -, -, rfl⟩ := found
    obtain ⟨t, split⟩ := starts
    rcases List.append_eq_append_iff.mp split with ⟨w, rfl, -⟩ | ⟨w, rfl, put⟩
    · exact ⟨w ++ (old ++ after), by simp⟩
    · cases w with
      | nil => exact ⟨old ++ after, by simp⟩
      | cons x w =>
        have nonempty : e.put ≠ [] := fun empty => by simp [empty] at first
        have starts := congrArg List.head? put
        rw [head?_append_of_ne_nil nonempty, first] at starts
        obtain rfl := Option.some.inj starts
        exact absurd (by simp) absent

/-- What an edit puts neither ends with a character of the first text nor starts with one of the second. -/
structure Frames (e : Edit) (front back : List Char) : Prop where
  last : ∃ d, e.put.getLast? = some d ∧ d ∉ front
  first : ∃ d, e.put.head? = some d ∧ d ∉ back

theorem Pass.suffix_of_frames (h : Pass es text out) (frames : ∀ e ∈ es, e.Frames u v)
    (ends : u <:+ out) : u <:+ text := by
  induction h with
  | nil => exact ends
  | cons head _ ih =>
    obtain ⟨frame, others⟩ := List.forall_mem_cons.mp frames
    obtain ⟨d, last, absent⟩ := frame.last
    exact suffix_of_rewritten head last absent (ih others ends)

theorem Pass.prefix_of_frames (h : Pass es text out) (frames : ∀ e ∈ es, e.Frames u v)
    (starts : v <+: out) : v <+: text := by
  induction h with
  | nil => exact starts
  | cons head _ ih =>
    obtain ⟨frame, others⟩ := List.forall_mem_cons.mp frames
    obtain ⟨d, first, absent⟩ := frame.first
    exact prefix_of_rewritten head first absent (ih others starts)

/-- What lies across a character after edits lay across it before, if nothing that is put ends or starts as
    its parts do. -/
theorem Pass.crosses {g : Edit} (plain : ∀ f, g.sought f → ∀ p q, f.At p q)
    (frames : ∀ f u v, g.sought f → f.chars = u ++ c :: v → ∀ e ∈ es, e.Frames u v)
    (before : Pass es a outBefore) (after : Pass es b outAfter)
    (h : g.Crosses outBefore c outAfter) : g.Crosses a c b := by
  obtain ⟨f, u, v, p, q, sought, chars, rfl, rfl, -⟩ := h
  have frames := frames f u v sought chars
  obtain ⟨p', rfl⟩ := before.suffix_of_frames frames (List.suffix_append p u)
  obtain ⟨q', rfl⟩ := after.prefix_of_frames frames (List.prefix_append v q)
  exact ⟨f, u, v, p', q', sought, chars, rfl, rfl, plain f sought p' q'⟩

end Edit

namespace Scanner

variable {e : Edit} {s : Scanner} {c : Char} {before a b : List Char} {size : Nat}

/-- Behind the character a scanner goes on as at the start of a text. -/
theorem scan_behind (makes : s.Makes e) (ends : e.EndsAt c) (rest : List Char) :
    s.scan 0 (some c) rest = s.run rest := by
  have same : s.size? (some c) rest = s.size? none rest := by
    refine Option.ext fun size => ?_
    rw [← List.getLast?_singleton (a := c), ← List.getLast?_nil (α := Char), makes.finds, makes.finds]
    refine exists_congr fun f => exists_congr fun after => and_congr_right fun sought => ?_
    simp only [Phrase.At, List.getLast?_singleton, List.getLast?_nil, ends.left f sought]
  cases rest with
  | nil => rfl
  | cons x rest => rw [run, scan, scan, same]

/-- In front of the character a scanner finds what it finds there at the end of a text. -/
theorem size?_in_front (makes : s.Makes e) (ends : e.EndsAt c)
    (free : ¬e.Crosses (before ++ a) c b) :
    s.size? before.getLast? (a ++ c :: b) = s.size? before.getLast? a := by
  refine Option.ext fun size => ?_
  rw [makes.finds, makes.finds]
  constructor
  · rintro ⟨f, after, sought, split, here, rfl⟩
    rcases List.append_eq_append_iff.mp split with ⟨w, chars, rest⟩ | ⟨w, rfl, rfl⟩
    · cases w with
      | nil =>
        rw [List.append_nil] at chars
        obtain rfl : c :: b = after := rest
        exact ⟨f, [], sought, by simp [chars], ⟨here.1, (ends.right f sought).mp here.2⟩, rfl⟩
      | cons x w =>
        obtain ⟨rfl, rfl⟩ := List.cons.inj rest
        exact absurd ⟨f, a, w, before, after, sought, chars, rfl, rfl, here⟩ free
    · exact ⟨f, w, sought, rfl, ⟨here.1, (ends.right_append sought).mp here.2⟩, rfl⟩
  · rintro ⟨f, after, sought, rfl, here, rfl⟩
    have right : f.right (after ++ c :: b).head? := (ends.right_append sought).mpr here.2
    exact ⟨f, after ++ c :: b, sought, by simp, ⟨here.1, right⟩, rfl⟩

/-- A scanner goes through what is before a character that parts the text, copies the character, and goes
    through what is behind it. -/
theorem scan_parted (makes : s.Makes e) (solid : e.Solid) (ends : e.EndsAt c)
    (free : ¬e.Crosses (before ++ a) c b) :
    s.scan 0 before.getLast? (a ++ c :: b) = s.scan 0 before.getLast? a ++ c :: s.run b := by
  induction length : a.length using Nat.strongRecOn generalizing before a with
  | ind n ih =>
  have whole := size?_in_front makes ends free
  cases found : s.size? before.getLast? a with
  | some size =>
    obtain ⟨f, after, sought, rfl, -, rfl⟩ := (makes.finds _ _ _).mp found
    have nonempty := solid f sought
    have shorter : after.length < n := by
      have := List.length_pos_iff.mpr nonempty
      rw [← length, List.length_append]
      omega
    rw [found, List.append_assoc] at whole
    rw [← List.append_assoc] at free
    rw [scan_of_found nonempty found, List.append_assoc, scan_of_found nonempty whole,
      ih _ shorter free rfl, List.append_assoc]
  | none =>
    rw [found] at whole
    cases a with
    | nil =>
      rw [List.nil_append] at whole ⊢
      rw [scan_of_none whole, List.getLast?_concat, scan_behind makes ends]
      rfl
    | cons x a =>
      rw [List.append_cons] at free
      rw [List.cons_append] at whole ⊢
      rw [scan_of_none whole, scan_of_none found,
        ih a.length (by rw [← length]; exact Nat.lt_succ_self _) free rfl]
      rfl

end Scanner

namespace Edit

variable {e : Edit} {es : List Edit} {c : Char} {a b out outBefore outAfter : List Char}

/-- An edit goes through the parts of a text on their own. -/
theorem Yields.parted (scannable : e.Scannable) (ends : e.EndsAt c) (free : ¬e.Crosses a c b)
    (whole : e.Yields (a ++ c :: b) out) (before : e.Yields a outBefore)
    (after : e.Yields b outAfter) : out = outBefore ++ c :: outAfter := by
  obtain ⟨s, makes⟩ := scannable.scanner
  rw [makes.eq_run scannable.solid whole, makes.eq_run scannable.solid before,
    makes.eq_run scannable.solid after]
  have free : ¬e.Crosses ([] ++ a) c b := free
  have parted := Scanner.scan_parted makes scannable.solid ends free
  exact parted

theorem Pass.eq_nil (h : Pass es [] out) (scannable : ∀ e ∈ es, e.Scannable) : out = [] := by
  induction es with
  | nil =>
    cases h
    rfl
  | cons e es ih =>
    obtain ⟨first, others⟩ := List.forall_mem_cons.mp scannable
    obtain ⟨s, makes⟩ := first.scanner
    cases h with
    | cons head tail =>
      rw [makes.eq_run first.solid head] at tail
      exact ih tail others

/-- Edits that never seek a character go through the parts of a text on their own. -/
theorem Pass.parted (h : ∀ e ∈ es, e.Scannable ∧ e.EndsAt c ∧ e.Lacks c)
    (whole : Pass es (a ++ c :: b) out) (before : Pass es a outBefore)
    (after : Pass es b outAfter) : out = outBefore ++ c :: outAfter := by
  induction es generalizing a b with
  | nil =>
    cases whole
    cases before
    cases after
    rfl
  | cons e es ih =>
    obtain ⟨⟨scannable, ends, lacks⟩, others⟩ := List.forall_mem_cons.mp h
    cases whole with
    | cons first rest =>
      cases before with
      | cons firstBefore restBefore =>
        cases after with
        | cons firstAfter restAfter =>
          rw [first.parted scannable ends lacks.not_crosses firstBefore firstAfter] at rest
          exact ih others rest restBefore restAfter

end Edit

end LintRepair.Replacement
