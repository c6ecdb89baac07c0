import LintRepair.Proofs.Pattern.Exploration

/-! # The matches that a search finds

A search finds a match that starts furthest left, and the list of all matches leaves out no place
where a match starts, but for those that a match covers and for an empty match directly at the end
of another.
-/

namespace LintRepair.Pattern

namespace Core

/-- A span is a match of an expression in a text: a reading at its place that records its slots. -/
def Matches (e : Core) (text : List Char) (m : Span) : Prop :=
  ∃ before read after, text = before ++ (read ++ after) ∧
    m.start = before.length ∧ m.stop = (before ++ read).length ∧
    e.Reads before read after [] m.slots

/-- Some match starts at a position. -/
def StartsAt (e : Core) (text : List Char) (i : Nat) : Prop := ∃ m, e.Matches text m ∧ m.start = i

/-- Some match at a position is empty. -/
def EmptyAt (e : Core) (text : List Char) (i : Nat) : Prop :=
  ∃ m, e.Matches text m ∧ m.start = i ∧ m.stop = i

theorem Matches.start_le_stop {e : Core} {text : List Char} {m : Span} (h : e.Matches text m) :
    m.start ≤ m.stop := by
  obtain ⟨before, read, after, -, hstart, hstop, -⟩ := h
  rw [hstart, hstop, List.length_append]
  omega

theorem Matches.stop_le_length {e : Core} {text : List Char} {m : Span} (h : e.Matches text m) :
    m.stop ≤ text.length := by
  obtain ⟨before, read, after, rfl, -, hstop, -⟩ := h
  rw [hstop]
  simp only [List.length_append]
  omega

end Core

/-- The addresses that an instruction names. -/
def Inst.targets : Inst → List Nat
  | .take _ next => [next]
  | .look _ next => [next]
  | .save _ next => [next]
  | .jump next => [next]
  | .fork a b => [a, b]
  | .fail => []
  | .accept => []

/-- An instruction of a layout does not accept and names addresses of the layout or the one after. -/
structure Inst.Inside (inst : Inst) (start stop next : Nat) : Prop where
  ne_accept : inst ≠ .accept
  targets : ∀ t ∈ inst.targets, (start ≤ t ∧ t < stop) ∨ t = next

theorem Inst.Inside.mono {inst : Inst} {start stop next start' stop' next' : Nat}
    (h : inst.Inside start stop next) (lower : start' ≤ start) (upper : stop ≤ stop')
    (exit : next = next' ∨ (start' ≤ next ∧ next < stop')) : inst.Inside start' stop' next' := by
  refine ⟨h.ne_accept, fun t ht => ?_⟩
  have := h.targets t ht
  omega

theorem Inst.inside_forkFor {greedy : Bool} {a b start stop next : Nat}
    (ha : (start ≤ a ∧ a < stop) ∨ a = next) (hb : (start ≤ b ∧ b < stop) ∨ b = next) :
    (forkFor greedy a b).Inside start stop next := by
  cases greedy <;> exact ⟨nofun, by simp [forkFor, targets, ha, hb]⟩

theorem Thread.inst_mem_targets {p : Program} {text : Array Char} {th th' : Thread} {inst : Inst}
    (h : p[th.inst]? = some inst) (head : th' ∈ th.next p text) : th'.inst ∈ inst.targets := by
  simp only [Thread.next, h] at head
  cases inst with
  | take =>
    simp only at head
    split at head
    · split at head <;> simp_all [Inst.targets]
    · cases head
  | look =>
    simp only at head
    split at head <;> simp_all [Inst.targets]
  | save | jump => simp_all [Inst.targets]
  | fork =>
    simp only [List.mem_cons, List.not_mem_nil, or_false] at head
    rcases head with rfl | rfl <;> simp [Inst.targets]
  | fail | accept => cases head

namespace Core

variable {p : Program}

theorem LaidOut.inside {e : Core} {start next i : Nat} (laid : e.LaidOut p start next)
    (lower : start ≤ i) (upper : i < start + e.size) :
    ∃ inst, p[i]? = some inst ∧ inst.Inside start (start + e.size) next := by
  induction e generalizing start next with
  | empty | fail | set | look =>
    obtain rfl : i = start := by simp only [size] at upper; omega
    exact ⟨_, laid, by simp, by simp [Inst.targets]⟩
  | group index e ih =>
    obtain ⟨opening, body, closing⟩ := laid
    have := e.size_pos
    simp only [size] at upper ⊢
    by_cases hstart : i = start
    · subst hstart
      exact ⟨_, opening, by simp, by simp only [Inst.targets, List.mem_singleton]; omega⟩
    by_cases hstop : i = start + 1 + e.size
    · subst hstop
      exact ⟨_, closing, by simp, by simp [Inst.targets]⟩
    · obtain ⟨inst, hi, inside⟩ := ih body (by omega) (by omega)
      exact ⟨inst, hi, inside.mono (by omega) (by omega) (by omega)⟩
  | cat a b iha ihb =>
    have := b.size_pos
    simp only [size] at upper ⊢
    by_cases hi : i < start + a.size
    · obtain ⟨inst, hi, inside⟩ := iha laid.1 lower hi
      exact ⟨inst, hi, inside.mono (by omega) (by omega) (by omega)⟩
    · obtain ⟨inst, hi, inside⟩ := ihb laid.2 (by omega) (by omega)
      exact ⟨inst, hi, inside.mono (by omega) (by omega) (by omega)⟩
  | alt a b iha ihb =>
    obtain ⟨fork, left, right⟩ := laid
    have := a.size_pos
    have := b.size_pos
    simp only [size] at upper ⊢
    by_cases hstart : i = start
    · subst hstart
      refine ⟨_, fork, by simp, ?_⟩
      simp only [Inst.targets, List.mem_cons, List.not_mem_nil, or_false]
      omega
    by_cases hi : i < start + 1 + a.size
    · obtain ⟨inst, hi, inside⟩ := iha left (by omega) hi
      exact ⟨inst, hi, inside.mono (by omega) (by omega) (by omega)⟩
    · obtain ⟨inst, hi, inside⟩ := ihb right (by omega) (by omega)
      exact ⟨inst, hi, inside.mono (by omega) (by omega) (by omega)⟩
  | opt greedy e ih | star greedy e ih =>
    have := e.size_pos
    simp only [size] at upper ⊢
    by_cases hstart : i = start
    · subst hstart
      exact ⟨_, laid.1, Inst.inside_forkFor (by omega) (by omega)⟩
    · obtain ⟨inst, hi, inside⟩ := ih laid.2 (by omega) (by omega)
      exact ⟨inst, hi, inside.mono (by omega) (by omega) (by omega)⟩
  | plus greedy e ih =>
    have := e.size_pos
    simp only [size] at upper ⊢
    by_cases hstop : i = start + e.size
    · subst hstop
      exact ⟨_, laid.2, Inst.inside_forkFor (by omega) (by omega)⟩
    · obtain ⟨inst, hi, inside⟩ := ih laid.1 lower (by omega)
      exact ⟨inst, hi, inside.mono (by omega) (by omega) (by omega)⟩

end Core

namespace Program

variable {e : Core} {text : Array Char} {th : Thread}

theorem isAccepted_ofCore_iff : th.isAccepted (ofCore e) = true ↔ th.inst = e.size := by
  constructor
  · intro h
    rw [Thread.isAccepted] at h
    by_cases hlt : th.inst < e.size
    · obtain ⟨inst, hi, inside⟩ := (laidOut_ofCore e).inside (Nat.zero_le _)
        (by rwa [Nat.zero_add])
      rw [hi] at h
      cases inst <;> first | exact absurd rfl inside.ne_accept | cases h
    · refine Decidable.byContradiction fun hne => ?_
      rw [Array.getElem?_eq_none (by rw [size_ofCore]; omega)] at h
      cases h
  · intro h
    rw [Thread.isAccepted, h, getElem?_ofCore_size]

theorem closed_ofCore (e : Core) : (ofCore e).Closed := by
  intro text th th' head
  rw [size_ofCore]
  by_cases hlt : th.inst < e.size
  · obtain ⟨inst, hi, inside⟩ := (laidOut_ofCore e).inside (Nat.zero_le _) (by rwa [Nat.zero_add])
    have := inside.targets _ (Thread.inst_mem_targets hi head)
    omega
  · exfalso
    rw [Thread.next] at head
    by_cases hlast : th.inst = e.size
    · rw [hlast, getElem?_ofCore_size] at head
      cases head
    · rw [Array.getElem?_eq_none (by rw [size_ofCore]; omega)] at head
      cases head

/-- What is accepted from the start of a program is a match. -/
theorem accepts_ofCore_iff {start : Nat} (hstart : start ≤ text.size) {s : Slots} {stop : Nat} :
    (∃ last : Thread, last.pos = stop ∧ last.slots = s ∧
      (⟨0, start, []⟩ : Thread).Accepts (ofCore e) text last) ↔
    e.Matches text.toList ⟨start, stop, s⟩ := by
  constructor
  · intro h
    obtain ⟨last, rfl, rfl, ⟨n, path⟩, accepted⟩ := h
    have hinst := isAccepted_ofCore_iff.mp accepted
    have hlen : (text.toList.take start).length = start := by
      rw [List.length_take, Array.length_toList]
      omega
    have split : text.toList = text.toList.take start ++ text.toList.drop start :=
      (List.take_append_drop _ _).symm
    rw [← hlen] at path
    obtain ⟨read, after, s', m, hrest, reads, -, path⟩ :=
      (laidOut_ofCore e).exits path split (.inr (by omega))
    -- Acceptance goes on nowhere, so the rest of the path has no step.
    cases path with
    | stay => exact ⟨_, read, after, hrest ▸ split, hlen.symm, rfl, reads⟩
    | step head _ =>
      rw [Thread.next, getElem?_ofCore_size] at head
      cases head
  · intro h
    obtain ⟨before, read, after, split, rfl, rfl, reads⟩ := h
    obtain ⟨n, path⟩ := reads.path (laidOut_ofCore e) split
    exact ⟨_, rfl, rfl, ⟨n, path⟩, isAccepted_ofCore_iff.mpr rfl⟩

end Program

section Search

variable {e : Core} {text : Array Char} {marks marks' : Marks} {start : Nat}

/-- Marks that serve for searching a text with the program of an expression. -/
def Core.Serves (e : Core) (text : Array Char) (marks : Marks) : Prop :=
  marks.Valid ((Program.ofCore e).size * (text.size + 1))

theorem Core.serves_marksFor (e : Core) (text : Array Char) :
    e.Serves text ((Program.ofCore e).marksFor text) := Marks.valid_none _

/-- What a search from a position comes to: the match found, if any, starts nowhere before the
    position, and no match starts in between. -/
structure Core.Searched (e : Core) (text : Array Char) (start : Nat) (result : Option Span × Marks) :
    Prop where
  serves : e.Serves text result.2
  found : ∀ m, result.1 = some m → e.Matches text.toList m ∧ start ≤ m.start
  passed : ∀ i, start ≤ i → (∀ m, result.1 = some m → i < m.start) → ¬ e.StartsAt text.toList i

theorem searchFrom_searched {count : Nat} (serves : e.Serves text marks)
    (explored : Explored (.ofCore e) text [] marks) (hcount : count = text.size + 1 - start) :
    e.Searched text start (searchFrom (.ofCore e) text count start marks) := by
  induction count generalizing start marks with
  | zero =>
    refine ⟨serves, nofun, fun i hi _ => ?_⟩
    intro h
    obtain ⟨m, hm, rfl⟩ := h
    have := hm.start_le_stop
    have := hm.stop_le_length
    rw [Array.length_toList] at this
    omega
  | succ count ih =>
    have hstart : start ≤ text.size := by omega
    have inRange : (⟨0, start, []⟩ : Thread).InRange (.ofCore e) text :=
      ⟨by rw [Program.size_ofCore]; exact Nat.succ_pos _, hstart⟩
    have closed := Program.closed_ofCore e
    have alone : ∀ th ∈ [(⟨0, start, []⟩ : Thread)], th.InRange (.ofCore e) text := by
      simpa using inRange
    have result := explore_result closed serves alone fun th hth hmark => ?_
    · rw [searchFrom]
      split
      · rename_i th marks' heq
        rw [heq] at result
        obtain ⟨w, hw, accepts⟩ := result.accepts th rfl
        obtain rfl := List.mem_singleton.mp hw
        have matched := (Program.accepts_ofCore_iff hstart).mp ⟨th, rfl, rfl, accepts⟩
        refine ⟨result.valid, fun m hm => ?_, fun i hi before => ?_⟩
        · obtain rfl := Option.some.inj hm
          exact ⟨matched, Nat.le_refl _⟩
        · exact absurd (before _ rfl) (Nat.not_lt.mpr hi)
      · rename_i marks' heq
        rw [heq] at result
        have rest : e.Searched text (start + 1) (searchFrom (.ofCore e) text count (start + 1) marks') :=
          ih result.valid (result.explored rfl) (by omega)
        refine ⟨rest.serves, fun m hm => ?_, fun i hi before => ?_⟩
        · exact ⟨(rest.found m hm).1, Nat.le_of_succ_le (rest.found m hm).2⟩
        · by_cases hne : i = start
          · subst hne
            intro h
            obtain ⟨⟨_, stop, s⟩, hm, rfl⟩ := h
            obtain ⟨last, -, -, accepts⟩ := (Program.accepts_ofCore_iff hstart).mpr hm
            exact (result.explored rfl).not_accepts closed inRange
              (result.stacked rfl _ List.mem_cons_self) last accepts
          · exact rest.passed i (by omega) before
    · obtain ⟨rejected, next⟩ := explored th hth hmark
      refine ⟨rejected, fun th' hth' => .inl ?_⟩
      cases next th' hth' with
      | inl done => exact done
      | inr side =>
        obtain ⟨w, hw, -⟩ := side
        cases hw

theorem search_searched (serves : e.Serves text marks) (start : Nat) :
    e.Searched text start (search (.ofCore e) text start marks) := by
  refine searchFrom_searched serves.clear (fun th hth hmark => ?_) rfl
  rw [serves.isMarked_clear hth.cell_lt] at hmark
  cases hmark

end Search

/-- Matches from left to right, from a position on and after a match that stopped at `lastStop`. A
    place where a match starts is passed over only at the end of the match before, and only when
    there is an empty match there. -/
inductive Core.Leftmost (e : Core) (text : List Char) : Option Nat → Nat → List Span → Prop where
  | none {lastStop start}
      (passed : ∀ i, start ≤ i → e.StartsAt text i → lastStop = some i ∧ e.EmptyAt text i) :
      Leftmost e text lastStop start []
  | cons {lastStop start m ms} (matched : e.Matches text m) (later : start ≤ m.start)
      (fresh : m.start = m.stop → lastStop ≠ some m.stop)
      (passed : ∀ i, start ≤ i → i < m.start → e.StartsAt text i →
        lastStop = some i ∧ e.EmptyAt text i)
      (rest : Leftmost e text (some m.stop) m.stop ms) :
      Leftmost e text lastStop start (m :: ms)

section Spans

variable {e : Core} {text : Array Char} {marks : Marks}

/-- The bound on the number of matches allows for one at every later position. -/
def Enough (size fuel : Nat) (lastStop : Option Nat) (start : Nat) : Prop :=
  size + 1 < fuel + if lastStop = none then 0 else start + 1

theorem Enough.not_zero {size start : Nat} {lastStop : Option Nat}
    (h : Enough size 0 lastStop start) (within : start ≤ size) : False := by
  unfold Enough at h
  split at h <;> omega

theorem Enough.next {size fuel start stop : Nat} {lastStop : Option Nat}
    (h : Enough size (fuel + 1) lastStop start) (later : lastStop ≠ none → start < stop) :
    Enough size fuel (some stop) stop := by
  unfold Enough at h ⊢
  simp only [reduceCtorEq, if_false]
  cases lastStop with
  | none =>
    simp only [if_true] at h
    omega
  | some last =>
    have := later (by simp)
    simp only [reduceCtorEq, if_false] at h
    omega

/-- Beyond an empty match that is found again, only its own place is passed over. -/
theorem emptyAt_of_starts {m : Span} {i : Nat} (matched : e.Matches text.toList m)
    (hempty : m.start = m.stop) (hi : m.stop ≤ i) (starts : e.StartsAt text.toList i)
    (beyond : m.stop + 1 ≤ i → ¬ e.StartsAt text.toList i) :
    some m.stop = some i ∧ e.EmptyAt text.toList i := by
  by_cases hne : i = m.stop
  · subst hne
    exact ⟨rfl, m, matched, hempty, rfl⟩
  · exact absurd starts (beyond (by omega))

/-- The bound on the number of matches is never reached: each match stops after the one before. -/
theorem spansFrom_leftmost {fuel start : Nat} {lastStop : Option Nat}
    (serves : e.Serves text marks) (last : lastStop = none ∨ lastStop = some start)
    (enough : Enough text.size fuel lastStop start) (within : start ≤ text.size) :
    e.Leftmost text.toList lastStop start
      (spansFrom (.ofCore e) text fuel lastStop start marks) := by
  induction fuel generalizing lastStop start marks with
  | zero => exact (enough.not_zero within).elim
  | succ fuel ih =>
    have searched := search_searched serves start
    rw [spansFrom]
    split
    · rename_i heq
      rw [heq] at searched
      exact .none fun i hi starts => absurd starts (searched.passed i hi nofun)
    · rename_i m marks' heq
      rw [heq] at searched
      obtain ⟨matched, later⟩ := searched.found m rfl
      have ordered := matched.start_le_stop
      split
      · rename_i again
        obtain ⟨hempty, rfl⟩ := again
        obtain rfl : start = m.stop := by
          cases last with
          | inl h => cases h
          | inr h => exact (Option.some.inj h).symm
        have searched' := search_searched searched.serves (m.stop + 1)
        split
        · rename_i heq
          rw [heq] at searched'
          refine .none fun i hi starts => emptyAt_of_starts matched hempty hi starts fun hlt => ?_
          exact searched'.passed i hlt nofun
        · rename_i m' marks'' heq
          rw [heq] at searched'
          obtain ⟨matched', later'⟩ := searched'.found m' rfl
          have ordered' := matched'.start_le_stop
          have bound := matched'.stop_le_length
          rw [Array.length_toList] at bound
          refine .cons matched' (by omega) (fun h => by simp only [ne_eq, Option.some.injEq]; omega)
            (fun i hi before starts => ?_) (ih searched'.serves (.inr rfl) ?_ bound)
          · refine emptyAt_of_starts matched hempty hi starts fun hlt => ?_
            exact searched'.passed i hlt fun _ h => Option.some.inj h ▸ before
          · exact enough.next fun _ => by omega
      · rename_i fresh
        have bound := matched.stop_le_length
        rw [Array.length_toList] at bound
        refine .cons matched later (fun h hlast => fresh ⟨h, hlast⟩) (fun i hi before starts => ?_)
          (ih searched.serves (.inr rfl) (enough.next fun hlast => ?_) bound)
        · exact absurd starts (searched.passed i hi fun _ h => Option.some.inj h ▸ before)
        -- An empty match directly after the one before would not be fresh.
        · have hlast : lastStop = some start := last.resolve_left hlast
          by_cases hstop : m.stop = start
          · exact absurd ⟨by omega, hstop ▸ hlast⟩ fresh
          · omega

theorem spans_leftmost (e : Core) (text : Array Char) :
    e.Leftmost text.toList none 0 (spans (.ofCore e) text) :=
  spansFrom_leftmost (e.serves_marksFor text) (.inl rfl) (by simp [Enough]) (Nat.zero_le _)

end Spans

end LintRepair.Pattern
