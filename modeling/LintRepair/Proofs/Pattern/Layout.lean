import LintRepair.Proofs.Pattern.Reading

/-! # Programs follow their expressions

The program of an expression goes from its first instruction to the address after it exactly by the
readings of the expression. Layout is a predicate on a program, so that the two directions are
proved without regard to how a program is put together.
-/

namespace LintRepair.Pattern

open LintRepair.Text

/-- The instructions of an expression stand in a program from an address on and go on elsewhere. -/
def Core.LaidOut (p : Program) : Core → Nat → Nat → Prop
  | .empty, start, next => p[start]? = some (.jump next)
  | .fail, start, _ => p[start]? = some .fail
  | .set chars, start, next => p[start]? = some (.take chars next)
  | .look l, start, next => p[start]? = some (.look l next)
  | .group index e, start, next =>
    p[start]? = some (.save (2 * index) (start + 1)) ∧
      e.LaidOut p (start + 1) (start + 1 + e.size) ∧
      p[start + 1 + e.size]? = some (.save (2 * index + 1) next)
  | .cat a b, start, next =>
    a.LaidOut p start (start + a.size) ∧ b.LaidOut p (start + a.size) next
  | .alt a b, start, next =>
    p[start]? = some (.fork (start + 1) (start + 1 + a.size)) ∧
      a.LaidOut p (start + 1) next ∧ b.LaidOut p (start + 1 + a.size) next
  | .opt greedy e, start, next =>
    p[start]? = some (forkFor greedy (start + 1) next) ∧ e.LaidOut p (start + 1) next
  | .star greedy e, start, next =>
    p[start]? = some (forkFor greedy (start + 1) next) ∧ e.LaidOut p (start + 1) start
  | .plus greedy e, start, next =>
    e.LaidOut p start (start + e.size) ∧
      p[start + e.size]? = some (forkFor greedy start next)

namespace Core

theorem size_emit (e : Core) (next : Nat) (code : Program) :
    (e.emit next code).size = code.size + e.size := by
  induction e generalizing next code with
  | empty | fail | set | look => simp [emit, size]
  | group index e ih => simp only [emit, Array.size_push, ih, size]; omega
  | cat a b iha ihb => simp only [emit, iha, ihb, size]; omega
  | alt a b iha ihb => simp only [emit, Array.size_push, iha, ihb, size]; omega
  | opt greedy e ih => simp only [emit, Array.size_push, ih, size]; omega
  | star greedy e ih => simp only [emit, Array.size_push, ih, size]; omega
  | plus greedy e ih => simp only [emit, Array.size_push, ih, size]; omega

private theorem getElem?_push_of_lt {code : Program} {i : Nat} (inst : Inst)
    (h : i < code.size) : (code.push inst)[i]? = code[i]? := by
  rw [Array.getElem?_push, if_neg (by omega)]

theorem getElem?_emit_of_lt (e : Core) (next : Nat) {code : Program} {i : Nat}
    (h : i < code.size) : (e.emit next code)[i]? = code[i]? := by
  induction e generalizing next code with
  | empty | fail | set | look => exact getElem?_push_of_lt _ h
  | group index e ih =>
    rw [emit, getElem?_push_of_lt _ (by simp only [size_emit, Array.size_push]; omega),
      ih _ (by simp only [Array.size_push]; omega), getElem?_push_of_lt _ h]
  | cat a b iha ihb =>
    rw [emit, ihb _ (by simp only [size_emit]; omega), iha _ h]
  | alt a b iha ihb =>
    rw [emit, ihb _ (by simp only [size_emit, Array.size_push]; omega),
      iha _ (by simp only [Array.size_push]; omega), getElem?_push_of_lt _ h]
  | opt greedy e ih | star greedy e ih =>
    rw [emit, ih _ (by simp only [Array.size_push]; omega), getElem?_push_of_lt _ h]
  | plus greedy e ih =>
    rw [emit, getElem?_push_of_lt _ (by simp only [size_emit]; omega), ih _ h]

/-- Layout depends on the instructions of the expression only. -/
theorem LaidOut.congr {p q : Program} {e : Core} {start next : Nat} (h : e.LaidOut p start next)
    (same : ∀ i, start ≤ i → i < start + e.size → q[i]? = p[i]?) : e.LaidOut q start next := by
  induction e generalizing start next with
  | empty | fail | set | look =>
    simp only [LaidOut] at h ⊢
    rw [same start (Nat.le_refl _) (by simp [size]), h]
  | group index e ih =>
    obtain ⟨opening, body, closing⟩ := h
    simp only [size] at same
    refine ⟨?_, ih body fun i lo hi => same i (by omega) (by omega), ?_⟩
    · rw [same start (Nat.le_refl _) (by omega), opening]
    · rw [same _ (by omega) (by omega), closing]
  | cat a b iha ihb =>
    simp only [size] at same
    exact ⟨iha h.1 fun i lo hi => same i lo (by omega),
      ihb h.2 fun i lo hi => same i (by omega) (by omega)⟩
  | alt a b iha ihb =>
    simp only [size] at same
    refine ⟨?_, iha h.2.1 fun i lo hi => same i (by omega) (by omega),
      ihb h.2.2 fun i lo hi => same i (by omega) (by omega)⟩
    rw [same start (Nat.le_refl _) (by omega), h.1]
  | opt greedy e ih | star greedy e ih =>
    simp only [size] at same
    refine ⟨?_, ih h.2 fun i lo hi => same i (by omega) (by omega)⟩
    rw [same start (Nat.le_refl _) (by omega), h.1]
  | plus greedy e ih =>
    simp only [size] at same
    refine ⟨ih h.1 fun i lo hi => same i lo (by omega), ?_⟩
    rw [same _ (by omega) (by omega), h.2]

theorem laidOut_emit (e : Core) (next : Nat) (code : Program) :
    e.LaidOut (e.emit next code) code.size next := by
  induction e generalizing next code with
  | empty | fail | set | look => simp [LaidOut, emit]
  | group index e ih =>
    have body := ih (code.size + 1 + e.size) (code.push (.save (2 * index) (code.size + 1)))
    refine ⟨?_, ?_, ?_⟩
    · rw [emit, getElem?_push_of_lt _ (by simp only [size_emit, Array.size_push]; omega),
        getElem?_emit_of_lt _ _ (by simp)]
      simp
    · rw [Array.size_push] at body
      refine body.congr fun i _ hi => ?_
      rw [emit, getElem?_push_of_lt _ (by simp only [size_emit, Array.size_push]; omega)]
    · rw [emit, Array.getElem?_push, if_pos (by simp only [size_emit, Array.size_push])]
  | cat a b iha ihb =>
    have left := iha (code.size + a.size) code
    have right := ihb next (a.emit (code.size + a.size) code)
    rw [size_emit] at right
    refine ⟨left.congr fun i _ hi => ?_, right⟩
    rw [emit, getElem?_emit_of_lt _ _ (by simp only [size_emit]; omega)]
  | alt a b iha ihb =>
    have left := iha next (code.push (.fork (code.size + 1) (code.size + 1 + a.size)))
    have right := ihb next
      (a.emit next (code.push (.fork (code.size + 1) (code.size + 1 + a.size))))
    rw [Array.size_push] at left
    rw [size_emit, Array.size_push] at right
    refine ⟨?_, left.congr fun i _ hi => ?_, right⟩
    · rw [emit, getElem?_emit_of_lt _ _ (by simp only [size_emit, Array.size_push]; omega),
        getElem?_emit_of_lt _ _ (by simp)]
      simp
    · rw [emit, getElem?_emit_of_lt _ _ (by simp only [size_emit, Array.size_push]; omega)]
  | opt greedy e ih =>
    have body := ih next (code.push (forkFor greedy (code.size + 1) next))
    rw [Array.size_push] at body
    refine ⟨?_, body⟩
    rw [emit, getElem?_emit_of_lt _ _ (by simp)]
    simp
  | star greedy e ih =>
    have body := ih code.size (code.push (forkFor greedy (code.size + 1) next))
    rw [Array.size_push] at body
    refine ⟨?_, body⟩
    rw [emit, getElem?_emit_of_lt _ _ (by simp)]
    simp
  | plus greedy e ih =>
    have body := ih (code.size + e.size) code
    refine ⟨body.congr fun i _ hi => ?_, ?_⟩
    · rw [emit, getElem?_push_of_lt _ (by simp only [size_emit]; omega)]
    · rw [emit, Array.getElem?_push, if_pos (by rw [size_emit])]

end Core

/-- So many steps of a program lead from one thread to another. -/
inductive Path (p : Program) (text : Array Char) : Nat → Thread → Thread → Prop where
  | stay {th} : Path p text 0 th th
  | step {n th th' last} (head : th' ∈ th.next p text) (tail : Path p text n th' last) :
      Path p text (n + 1) th last

namespace Path

variable {p : Program} {text : Array Char}

theorem trans {m n : Nat} {th th' last : Thread} (left : Path p text m th th')
    (right : Path p text n th' last) : Path p text (m + n) th last := by
  induction left with
  | stay => simpa using right
  | step head _ ih => simpa [Nat.add_right_comm] using Path.step head (ih right)

theorem first {n : Nat} {th last : Thread} (h : Path p text n th last)
    (moved : last.inst ≠ th.inst) :
    ∃ m th', n = m + 1 ∧ th' ∈ th.next p text ∧ Path p text m th' last := by
  cases h with
  | stay => exact absurd rfl moved
  | step head tail => exact ⟨_, _, rfl, head, tail⟩

end Path

section Steps

variable {p : Program} {text : Array Char} {i pos next : Nat} {s : Slots} {th : Thread}

theorem Thread.mem_next_jump (h : p[i]? = some (.jump next)) :
    th ∈ Thread.next p text ⟨i, pos, s⟩ ↔ th = ⟨next, pos, s⟩ := by
  simp [Thread.next, h]

theorem Thread.mem_next_save {slot : Nat} (h : p[i]? = some (.save slot next)) :
    th ∈ Thread.next p text ⟨i, pos, s⟩ ↔ th = ⟨next, pos, (slot, pos) :: s⟩ := by
  simp [Thread.next, h]

theorem Thread.mem_next_fork {a b : Nat} (h : p[i]? = some (.fork a b)) :
    th ∈ Thread.next p text ⟨i, pos, s⟩ ↔ th = ⟨a, pos, s⟩ ∨ th = ⟨b, pos, s⟩ := by
  simp [Thread.next, h]

theorem Thread.mem_next_forkFor {greedy : Bool} {a b : Nat}
    (h : p[i]? = some (forkFor greedy a b)) :
    th ∈ Thread.next p text ⟨i, pos, s⟩ ↔ th = ⟨a, pos, s⟩ ∨ th = ⟨b, pos, s⟩ := by
  cases greedy with
  | false => rw [mem_next_fork h, or_comm]
  | true => exact mem_next_fork h

theorem Thread.mem_next_take {chars : CharSet} (h : p[i]? = some (.take chars next)) :
    th ∈ Thread.next p text ⟨i, pos, s⟩ ↔
      ∃ c, text[pos]? = some c ∧ chars.contains c = true ∧ th = ⟨next, pos + 1, s⟩ := by
  simp only [Thread.next, h]
  cases text[pos]? with
  | none => simp
  | some c => by_cases hc : chars.contains c = true <;> simp [hc]

theorem Thread.mem_next_look {l : Look} (h : p[i]? = some (.look l next)) :
    th ∈ Thread.next p text ⟨i, pos, s⟩ ↔ l.holds text pos = true ∧ th = ⟨next, pos, s⟩ := by
  simp only [Thread.next, h]
  split <;> simp_all

theorem Thread.next_fail (h : p[i]? = some .fail) : Thread.next p text ⟨i, pos, s⟩ = [] := by
  simp [Thread.next, h]

end Steps

theorem getElem?_of_split {text : Array Char} {before rest : List Char}
    (split : text.toList = before ++ rest) : text[before.length]? = rest.head? := by
  rw [← Array.getElem?_toList, split, List.getElem?_append_right (Nat.le_refl _), Nat.sub_self,
    List.head?_eq_getElem?]

theorem charBefore_of_split {text : Array Char} {before rest : List Char}
    (split : text.toList = before ++ rest) : charBefore text before.length = before.getLast? := by
  obtain rfl | ⟨before, c, rfl⟩ := List.eq_nil_or_concat before
  · rfl
  · rw [List.concat_eq_append] at split ⊢
    rw [List.length_append, List.length_singleton, charBefore, ← Array.getElem?_toList, split]
    simp

theorem Look.holds_of_split {l : Look} {text : Array Char} {before rest : List Char}
    (split : text.toList = before ++ rest) :
    l.holds text before.length = l.between before.getLast? rest.head? := by
  rw [Look.holds, charBefore_of_split split, getElem?_of_split split]

namespace Core

variable {p : Program} {text : Array Char}

/-- Each reading of an expression is a path through its layout. -/
theorem Reads.path {e : Core} {before read after : List Char} {s s' : Slots} {start next : Nat}
    (h : e.Reads before read after s s') (laid : e.LaidOut p start next)
    (split : text.toList = before ++ (read ++ after)) :
    ∃ n, Path p text n ⟨start, before.length, s⟩ ⟨next, (before ++ read).length, s'⟩ := by
  induction h generalizing start next with
  | empty =>
    refine ⟨1, .step ((Thread.mem_next_jump laid).mpr rfl) ?_⟩
    simpa using Path.stay
  | @set chars c before after s member =>
    have at_ : text[before.length]? = some c := by rw [getElem?_of_split split]; rfl
    refine ⟨1, .step ((Thread.mem_next_take laid).mpr ⟨c, at_, member, rfl⟩) ?_⟩
    simpa using Path.stay
  | look holds =>
    have here := (Look.holds_of_split split).trans holds
    refine ⟨1, .step ((Thread.mem_next_look laid).mpr ⟨here, rfl⟩) ?_⟩
    simpa using Path.stay
  | group body ih =>
    obtain ⟨opening, inside, closing⟩ := laid
    obtain ⟨n, path⟩ := ih inside split
    exact ⟨_, .step ((Thread.mem_next_save opening).mpr rfl)
      (path.trans (.step ((Thread.mem_next_save closing).mpr rfl) .stay))⟩
  | cat left right ihl ihr =>
    obtain ⟨m, first⟩ := ihl laid.1 (by simpa using split)
    obtain ⟨n, second⟩ := ihr laid.2 (by simpa using split)
    exact ⟨m + n, by simpa using first.trans second⟩
  | altFirst left ih =>
    obtain ⟨n, path⟩ := ih laid.2.1 split
    exact ⟨_, .step ((Thread.mem_next_fork laid.1).mpr (.inl rfl)) path⟩
  | altSecond right ih =>
    obtain ⟨n, path⟩ := ih laid.2.2 split
    exact ⟨_, .step ((Thread.mem_next_fork laid.1).mpr (.inr rfl)) path⟩
  | optNone =>
    refine ⟨1, .step ((Thread.mem_next_forkFor laid.1).mpr (.inr rfl)) ?_⟩
    simpa using Path.stay
  | optSome body ih =>
    obtain ⟨n, path⟩ := ih laid.2 split
    exact ⟨_, .step ((Thread.mem_next_forkFor laid.1).mpr (.inl rfl)) path⟩
  | starNone =>
    refine ⟨1, .step ((Thread.mem_next_forkFor laid.1).mpr (.inr rfl)) ?_⟩
    simpa using Path.stay
  | starMore body more ihb ihm =>
    obtain ⟨m, first⟩ := ihb laid.2 (by simpa using split)
    obtain ⟨n, second⟩ := ihm laid (by simpa using split)
    have round := first.trans second
    rw [List.append_assoc] at round
    exact ⟨_, .step ((Thread.mem_next_forkFor laid.1).mpr (.inl rfl)) round⟩
  | plusOnce body ih =>
    obtain ⟨n, path⟩ := ih laid.1 split
    exact ⟨_, path.trans (.step ((Thread.mem_next_forkFor laid.2).mpr (.inr rfl)) .stay)⟩
  | plusMore body more ihb ihm =>
    obtain ⟨m, first⟩ := ihb laid.1 (by simpa using split)
    obtain ⟨n, second⟩ := ihm laid (by simpa using split)
    have round := first.trans (.step ((Thread.mem_next_forkFor laid.2).mpr (.inl rfl)) second)
    rw [List.append_assoc] at round
    exact ⟨_, round⟩

/-- What a path through an expression comes to when it leaves the layout: a reading, and a shorter
    path from the address after the layout. -/
def Exits (p : Program) (text : Array Char) (e : Core) (next n : Nat) (before rest : List Char)
    (s : Slots) (last : Thread) : Prop :=
  ∃ read after s' m, rest = read ++ after ∧ e.Reads before read after s s' ∧ m < n ∧
    Path p text m ⟨next, (before ++ read).length, s'⟩ last

section Exits

variable {a b e e' : Core} {start middle next m n : Nat} {before rest : List Char} {s : Slots}
  {last : Thread}

theorem Exits.nil (reads : e.Reads before [] rest s s) (shorter : m < n)
    (tail : Path p text m ⟨next, before.length, s⟩ last) : e.Exits p text next n before rest s last :=
  ⟨[], rest, s, m, rfl, reads, shorter, by simpa using tail⟩

theorem Exits.imp (h : e.Exits p text next m before rest s last) (shorter : m < n)
    (reads : ∀ read after s', e.Reads before read after s s' → e'.Reads before read after s s') :
    e'.Exits p text next n before rest s last := by
  obtain ⟨read, after, s', k, hrest, body, hk, path⟩ := h
  exact ⟨read, after, s', k, hrest, reads read after s' body, by omega, path⟩

/-- Where one expression is left, the path may go through another. -/
theorem Exits.append (first : a.Exits p text middle n before rest s last)
    (second : ∀ read after s' k, rest = read ++ after → k < n →
      Path p text k ⟨middle, (before ++ read).length, s'⟩ last →
        b.Exits p text next k (before ++ read) after s' last)
    (reads : ∀ read read' after s₁ s₂, a.Reads before read (read' ++ after) s s₁ →
      b.Reads (before ++ read) read' after s₁ s₂ → e.Reads before (read ++ read') after s s₂) :
    e.Exits p text next n before rest s last := by
  obtain ⟨read, between, s₁, k, hrest, front, hk, path⟩ := first
  obtain ⟨read', after, s₂, j, hbetween, back, hj, path⟩ := second read between s₁ k hrest hk path
  subst hbetween
  refine ⟨read ++ read', after, s₂, j, ?_, reads read read' after s₁ s₂ front back, by omega, ?_⟩
  · rw [hrest, List.append_assoc]
  · simpa using path

variable {greedy : Bool}

/-- Each round of a loop leaves a shorter path. -/
theorem exits_star (fork : p[start]? = some (forkFor greedy (start + 1) next))
    (moved : last.inst ≠ start)
    (inside : ∀ n before rest s, Path p text n ⟨start + 1, before.length, s⟩ last →
      text.toList = before ++ rest → e.Exits p text start n before rest s last)
    (path : Path p text n ⟨start, before.length, s⟩ last) (split : text.toList = before ++ rest) :
    (star greedy e).Exits p text next n before rest s last := by
  induction n using Nat.strongRecOn generalizing before rest s with
  | ind n again =>
    obtain ⟨m, th, rfl, head, tail⟩ := path.first moved
    cases (Thread.mem_next_forkFor fork).mp head with
    | inl same =>
      subst same
      refine Exits.imp (e := star greedy e) ?_ (Nat.lt_succ_self m) fun _ _ _ reads => reads
      refine (inside m before rest s tail split).append ?_ fun _ _ _ _ _ => .starMore
      intro read after s' k hrest hk path
      subst hrest
      exact again k (by omega) path (by simpa using split)
    | inr same =>
      subst same
      exact .nil .starNone (Nat.lt_succ_self m) tail

theorem exits_plus (fork : p[start + e.size]? = some (forkFor greedy start next))
    (moved : last.inst ≠ start + e.size)
    (inside : ∀ n before rest s, Path p text n ⟨start, before.length, s⟩ last →
      text.toList = before ++ rest → e.Exits p text (start + e.size) n before rest s last)
    (path : Path p text n ⟨start, before.length, s⟩ last) (split : text.toList = before ++ rest) :
    (plus greedy e).Exits p text next n before rest s last := by
  induction n using Nat.strongRecOn generalizing before rest s with
  | ind n again =>
    obtain ⟨read, after, s', k, rfl, body, hk, path⟩ := inside n before rest s path split
    obtain ⟨m, th, rfl, head, tail⟩ := path.first moved
    cases (Thread.mem_next_forkFor fork).mp head with
    | inl same =>
      subst same
      obtain ⟨read', after, s₂, j, rfl, more, hj, path⟩ :=
        again m (by omega) tail (by simpa using split)
      exact ⟨read ++ read', after, s₂, j, by simp, .plusMore body more, by omega,
        by simpa using path⟩
    | inr same =>
      subst same
      exact ⟨read, after, s', m, rfl, .plusOnce body, by omega, tail⟩

/-- A path that starts at an expression and ends outside its layout goes through a reading. -/
theorem LaidOut.exits (laid : e.LaidOut p start next)
    (path : Path p text n ⟨start, before.length, s⟩ last) (split : text.toList = before ++ rest)
    (out : last.inst < start ∨ start + e.size ≤ last.inst) :
    e.Exits p text next n before rest s last := by
  have moved : last.inst ≠ start := by
    have := e.size_pos
    omega
  induction e generalizing start next n before rest s with
  | empty =>
    obtain ⟨m, th, rfl, head, tail⟩ := path.first moved
    obtain rfl := (Thread.mem_next_jump laid).mp head
    exact .nil .empty (Nat.lt_succ_self m) tail
  | fail =>
    obtain ⟨m, th, rfl, head, -⟩ := path.first moved
    rw [Thread.next_fail laid] at head
    cases head
  | set chars =>
    obtain ⟨m, th, rfl, head, tail⟩ := path.first moved
    obtain ⟨c, hc, member, rfl⟩ := (Thread.mem_next_take laid).mp head
    rw [getElem?_of_split split] at hc
    obtain ⟨after, rfl⟩ := List.head?_eq_some_iff.mp hc
    exact ⟨[c], after, s, m, rfl, .set member, by omega, by simpa using tail⟩
  | look l =>
    obtain ⟨m, th, rfl, head, tail⟩ := path.first moved
    obtain ⟨holds, rfl⟩ := (Thread.mem_next_look laid).mp head
    rw [Look.holds_of_split split] at holds
    exact .nil (.look holds) (Nat.lt_succ_self m) tail
  | group index e ih =>
    obtain ⟨opening, inside, closing⟩ := laid
    simp only [size] at out
    obtain ⟨m, th, rfl, head, tail⟩ := path.first moved
    obtain rfl := (Thread.mem_next_save opening).mp head
    obtain ⟨read, after, s', k, rfl, body, hk, path⟩ :=
      ih inside tail split (by omega) (by have := e.size_pos; omega)
    obtain ⟨j, th, rfl, head, tail⟩ := path.first (by simp only; omega)
    obtain rfl := (Thread.mem_next_save closing).mp head
    exact ⟨read, after, _, j, rfl, .group body, by omega, tail⟩
  | cat a b iha ihb =>
    obtain ⟨left, right⟩ := laid
    have := a.size_pos
    have := b.size_pos
    simp only [size] at out
    refine (iha left path split (by omega) (by omega)).append ?_ fun _ _ _ _ _ => .cat
    intro read after s' k hrest _ path
    subst hrest
    exact ihb right path (by simpa using split) (by omega) (by omega)
  | alt a b iha ihb =>
    obtain ⟨fork, left, right⟩ := laid
    have := a.size_pos
    have := b.size_pos
    simp only [size] at out
    obtain ⟨m, th, rfl, head, tail⟩ := path.first moved
    cases (Thread.mem_next_fork fork).mp head with
    | inl same =>
      subst same
      have front := iha left tail split (by omega) (by omega)
      exact front.imp (Nat.lt_succ_self m) fun _ _ _ => .altFirst
    | inr same =>
      subst same
      have back := ihb right tail split (by omega) (by omega)
      exact back.imp (Nat.lt_succ_self m) fun _ _ _ => .altSecond
  | opt greedy e ih =>
    obtain ⟨fork, inside⟩ := laid
    have := e.size_pos
    simp only [size] at out
    obtain ⟨m, th, rfl, head, tail⟩ := path.first moved
    cases (Thread.mem_next_forkFor fork).mp head with
    | inl same =>
      subst same
      have body := ih inside tail split (by omega) (by omega)
      exact body.imp (Nat.lt_succ_self m) fun _ _ _ => .optSome
    | inr same =>
      subst same
      exact .nil .optNone (Nat.lt_succ_self m) tail
  | star greedy e ih =>
    obtain ⟨fork, inside⟩ := laid
    have := e.size_pos
    simp only [size] at out
    refine exits_star fork moved (fun n before rest s path split => ?_) path split
    exact ih inside path split (by omega) (by omega)
  | plus greedy e ih =>
    obtain ⟨inside, fork⟩ := laid
    have := e.size_pos
    simp only [size] at out
    refine exits_plus fork (by omega) (fun n before rest s path split => ?_) path split
    exact ih inside path split (by omega) (by omega)

end Exits

end Core

namespace Program

theorem laidOut_ofCore (e : Core) : e.LaidOut (ofCore e) 0 e.size := by
  have laid := e.laidOut_emit e.size #[]
  refine Core.LaidOut.congr laid fun i _ hi => ?_
  rw [ofCore, Array.getElem?_push, if_neg]
  rw [e.size_emit, Array.size_empty]
  omega

theorem size_ofCore (e : Core) : (ofCore e).size = e.size + 1 := by
  rw [ofCore, Array.size_push, e.size_emit, Array.size_empty, Nat.zero_add]

theorem getElem?_ofCore_size (e : Core) : (ofCore e)[e.size]? = some .accept := by
  rw [ofCore, Array.getElem?_push, if_pos (by rw [e.size_emit, Array.size_empty, Nat.zero_add])]

end Program

end LintRepair.Pattern
