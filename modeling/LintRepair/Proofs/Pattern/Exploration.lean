import LintRepair.Proofs.Pattern.Layout

/-! # Exploration finds what can be accepted

Exploration marks the places it has been to and does not go there again. It is nevertheless complete:
when it gives up, every marked place leads to marked places only, and none of them accepts.
-/

namespace LintRepair.Pattern

/-- Marks for so many cells, none of which holds a later stamp. -/
structure Marks.Valid (m : Marks) (size : Nat) : Prop where
  size_eq : m.cells.size = size
  le_stamp : ∀ (i stamp : Nat), m.cells[i]? = some stamp → stamp ≤ m.stamp

namespace Marks

variable {m : Marks} {size i j : Nat}

theorem valid_none (size : Nat) : (Marks.none size).Valid size where
  size_eq := by simp [none]
  le_stamp i stamp h := by
    simp only [none, Array.getElem?_replicate] at h
    split at h
    · obtain rfl := Option.some.inj h
      exact Nat.zero_le _
    · cases h

theorem Valid.clear (h : m.Valid size) : m.clear.Valid size where
  size_eq := h.size_eq
  le_stamp i stamp hi := Nat.le_succ_of_le (h.le_stamp i stamp hi)

theorem Valid.mark (h : m.Valid size) (i : Nat) : (m.mark i).Valid size where
  size_eq := by simp [Marks.mark, h.size_eq]
  le_stamp j stamp hj := by
    simp only [Marks.mark, Array.getElem?_setIfInBounds] at hj ⊢
    split at hj
    · split at hj
      · obtain rfl := Option.some.inj hj
        exact Nat.le_refl _
      · cases hj
    · exact h.le_stamp j stamp hj

theorem Valid.isMarked_clear (h : m.Valid size) (hi : i < size) :
    m.clear.isMarked i = false := by
  have hi' : i < m.cells.size := h.size_eq.symm ▸ hi
  have hle := h.le_stamp i _ (Array.getElem?_eq_getElem hi')
  simp only [isMarked, Marks.clear, Array.getElem?_eq_getElem hi', beq_eq_false_iff_ne]
  omega

theorem Valid.isMarked_mark (h : m.Valid size) (hi : i < size) :
    (m.mark i).isMarked j = true ↔ j = i ∨ m.isMarked j = true := by
  have hi' : i < m.cells.size := h.size_eq.symm ▸ hi
  simp only [isMarked, Marks.mark, Array.getElem?_setIfInBounds]
  by_cases hij : i = j
  · subst hij
    simp [hi']
  · simp [hij, Ne.symm hij]

end Marks

namespace Thread

variable {p : Program} {text : Array Char} {th th' w : Thread}

/-- Where a thread stands in the program and in the text. -/
def place (th : Thread) : Nat × Nat := (th.inst, th.pos)

/-- A thread stands at an instruction and within the text. -/
def InRange (p : Program) (text : Array Char) (th : Thread) : Prop :=
  th.inst < p.size ∧ th.pos ≤ text.size

theorem cell_eq_of_place (h : w.place = th.place) : w.cell p = th.cell p := by
  obtain ⟨hinst, hpos⟩ := Prod.mk.inj h
  rw [cell, cell, hinst, hpos]

theorem place_eq_of_cell (hth : th.inst < p.size) (hw : w.inst < p.size)
    (h : w.cell p = th.cell p) : w.place = th.place := by
  have hpos : 0 < p.size := by omega
  have hmod := congrArg (· % p.size) h
  have hdiv := congrArg (· / p.size) h
  simp only [cell, Nat.mul_add_mod_self_right, Nat.mod_eq_of_lt hth, Nat.mod_eq_of_lt hw] at hmod
  simp only [cell, Nat.mul_comm _ p.size, Nat.mul_add_div hpos, Nat.div_eq_of_lt hth,
    Nat.div_eq_of_lt hw, Nat.add_zero] at hdiv
  exact Prod.ext hmod hdiv

theorem InRange.cell_lt (h : th.InRange p text) : th.cell p < p.size * (text.size + 1) := by
  have hle : th.pos * p.size ≤ text.size * p.size := Nat.mul_le_mul_right _ h.2
  have hlt := h.1
  rw [cell, Nat.mul_succ, Nat.mul_comm p.size]
  omega

theorem isAccepted_eq_of_place (h : w.place = th.place) :
    w.isAccepted p = th.isAccepted p := by
  rw [isAccepted, isAccepted, (Prod.mk.inj h).1]

/-- What has been recorded plays no part in where a thread goes on. -/
theorem places_next (h : w.place = th.place) :
    (w.next p text).map place = (th.next p text).map place := by
  obtain ⟨hinst, hpos⟩ := Prod.mk.inj h
  simp only [Thread.next, hinst, hpos]
  split
  · split
    · split <;> rfl
    · rfl
  · split <;> rfl
  all_goals rfl

theorem exists_mem_next (h : w.place = th.place) (hth' : th' ∈ th.next p text) :
    ∃ w' ∈ w.next p text, w'.place = th'.place := by
  rw [← List.mem_map, places_next h]
  exact List.mem_map_of_mem hth'

theorem pos_le_of_mem_next (h : th.pos ≤ text.size) (hth' : th' ∈ th.next p text) :
    th'.pos ≤ text.size := by
  simp only [Thread.next] at hth'
  split at hth'
  · split at hth'
    · rename_i hc
      have hlt := (Array.getElem?_eq_some_iff.mp hc).1
      split at hth' <;> simp only [List.mem_singleton, List.not_mem_nil] at hth'
      subst hth'
      exact hlt
    · cases hth'
  · split at hth' <;> simp only [List.mem_singleton, List.not_mem_nil] at hth'
    subst hth'
    exact h
  · obtain rfl := List.mem_singleton.mp hth'
    exact h
  · obtain rfl := List.mem_singleton.mp hth'
    exact h
  · simp only [List.mem_cons, List.not_mem_nil, or_false] at hth'
    rcases hth' with rfl | rfl <;> exact h
  all_goals cases hth'

/-- A thread leads to another that is accepted. -/
def Accepts (p : Program) (text : Array Char) (th last : Thread) : Prop :=
  (∃ n, Path p text n th last) ∧ last.isAccepted p = true

end Thread

/-- Every target of a program is an instruction of it. -/
def Program.Closed (p : Program) : Prop :=
  ∀ (text : Array Char) (th th' : Thread), th' ∈ th.next p text → th'.inst < p.size

section Explore

variable {p : Program} {text : Array Char} {th th' : Thread} {stack : List Thread}
  {marks : Marks}

theorem Thread.InRange.next (closed : p.Closed) (h : th.InRange p text)
    (hth' : th' ∈ th.next p text) : th'.InRange p text :=
  ⟨closed text th th' hth', Thread.pos_le_of_mem_next h.2 hth'⟩

/-- What is known while a stack is explored: marked places do not accept, and lead to places that are
    marked or still on the stack. -/
def Explored (p : Program) (text : Array Char) (stack : List Thread) (marks : Marks) : Prop :=
  ∀ th : Thread, th.InRange p text → marks.isMarked (th.cell p) = true →
    th.isAccepted p = false ∧ ∀ th' ∈ th.next p text,
      marks.isMarked (th'.cell p) = true ∨ ∃ w ∈ stack, w.place = th'.place

theorem Explored.of_marked (h : Explored p text (th :: stack) marks)
    (marked : marks.isMarked (th.cell p) = true) : Explored p text stack marks := by
  intro w hw hwm
  obtain ⟨rejected, next⟩ := h w hw hwm
  refine ⟨rejected, fun w' hw' => ?_⟩
  rcases next w' hw' with done | ⟨v, hv, place⟩
  · exact .inl done
  cases List.mem_cons.mp hv with
  | inl same =>
    subst same
    exact .inl (by rw [← Thread.cell_eq_of_place place]; exact marked)
  | inr hv => exact .inr ⟨v, hv, place⟩

theorem Explored.mark (h : Explored p text (th :: stack) marks)
    (valid : marks.Valid (p.size * (text.size + 1))) (inRange : th.InRange p text)
    (rejected : th.isAccepted p = false) :
    Explored p text (th.next p text ++ stack) (marks.mark (th.cell p)) := by
  intro w hw hwm
  cases (valid.isMarked_mark inRange.cell_lt).mp hwm with
  | inl same =>
    have place := Thread.place_eq_of_cell inRange.1 hw.1 same
    refine ⟨(Thread.isAccepted_eq_of_place place).trans rejected, fun w' hw' => .inr ?_⟩
    obtain ⟨v, hv, hplace⟩ := Thread.exists_mem_next place.symm hw'
    exact ⟨v, List.mem_append_left _ hv, hplace⟩
  | inr marked =>
    obtain ⟨rejected, next⟩ := h w hw marked
    refine ⟨rejected, fun w' hw' => ?_⟩
    rcases next w' hw' with done | ⟨v, hv, place⟩
    · exact .inl ((valid.isMarked_mark inRange.cell_lt).mpr (.inr done))
    cases List.mem_cons.mp hv with
    | inl equal =>
      subst equal
      exact .inl ((valid.isMarked_mark inRange.cell_lt).mpr
        (.inl (Thread.cell_eq_of_place place).symm))
    | inr hv => exact .inr ⟨v, List.mem_append_right _ hv, place⟩

/-- With nothing left to explore, no marked place leads to acceptance. -/
theorem Explored.not_accepts (closed : p.Closed) (h : Explored p text [] marks)
    (inRange : th.InRange p text) (marked : marks.isMarked (th.cell p) = true) (last : Thread) :
    ¬ th.Accepts p text last := by
  intro h
  obtain ⟨⟨n, path⟩, accepted⟩ := h
  induction path with
  | stay => simp [(h _ inRange marked).1] at accepted
  | step head _ ih =>
    cases (h _ inRange marked).2 _ head with
    | inl done => exact ih (inRange.next closed head) done accepted
    | inr side =>
      obtain ⟨w, hw, -⟩ := side
      cases hw

/-- What an exploration comes to. It keeps marks valid; what it accepts can be reached from the
    stack; and when it gives up, the stack has been explored and old marks remain. -/
structure ExploreResult (p : Program) (text : Array Char) (stack : List Thread) (marks : Marks)
    (result : Option Thread × Marks) : Prop where
  valid : result.2.Valid (p.size * (text.size + 1))
  accepts : ∀ last, result.1 = some last → ∃ th ∈ stack, th.Accepts p text last
  explored : result.1 = none → Explored p text [] result.2
  kept : result.1 = none → ∀ i, marks.isMarked i = true → result.2.isMarked i = true
  stacked : result.1 = none → ∀ th ∈ stack, result.2.isMarked (th.cell p) = true

theorem explore_result (closed : p.Closed) (valid : marks.Valid (p.size * (text.size + 1)))
    (inRange : ∀ th ∈ stack, th.InRange p text) (h : Explored p text stack marks) :
    ExploreResult p text stack marks (explore p text stack marks) := by
  induction stack, marks using explore.induct p text with
  | case1 marks =>
    rw [explore]
    exact ⟨valid, by simp, fun _ => h, fun _ _ hi => hi, by simp⟩
  | case2 marks th rest marked ih =>
    rw [explore, dif_pos marked]
    have result := ih valid (fun w hw => inRange w (List.mem_cons_of_mem _ hw)) (h.of_marked marked)
    refine ⟨result.valid, fun last hlast => ?_, result.explored, result.kept, fun hnone w hw => ?_⟩
    · obtain ⟨w, hw, accepts⟩ := result.accepts last hlast
      exact ⟨w, List.mem_cons_of_mem _ hw, accepts⟩
    · cases List.mem_cons.mp hw with
      | inl same =>
        subst same
        exact result.kept hnone _ marked
      | inr hw => exact result.stacked hnone w hw
  | case3 marks th rest unmarked accepted =>
    rw [explore, dif_neg unmarked, if_pos accepted]
    refine ⟨valid.mark _, fun last hlast => ?_, by simp, by simp, by simp⟩
    obtain rfl := Option.some.inj hlast
    exact ⟨th, List.mem_cons_self, ⟨0, .stay⟩, accepted⟩
  | case4 marks th rest unmarked rejected ih =>
    rw [explore, dif_neg unmarked, if_neg rejected]
    have here := inRange th List.mem_cons_self
    have range : ∀ w ∈ th.next p text ++ rest, w.InRange p text := by
      intro w hw
      cases List.mem_append.mp hw with
      | inl hw => exact here.next closed hw
      | inr hw => exact inRange w (List.mem_cons_of_mem _ hw)
    have result := ih (valid.mark _) range (h.mark valid here (by simpa using rejected))
    have marked i (hi : marks.isMarked i = true ∨ i = th.cell p) :
        (marks.mark (th.cell p)).isMarked i = true :=
      (valid.isMarked_mark here.cell_lt).mpr hi.symm
    refine ⟨result.valid, fun last hlast => ?_, result.explored,
      fun hnone i hi => result.kept hnone i (marked i (.inl hi)), fun hnone w hw => ?_⟩
    · obtain ⟨w, hw, ⟨⟨n, path⟩, accepted⟩⟩ := result.accepts last hlast
      cases List.mem_append.mp hw with
      | inl hw => exact ⟨th, List.mem_cons_self, ⟨n + 1, .step hw path⟩, accepted⟩
      | inr hw => exact ⟨w, List.mem_cons_of_mem _ hw, ⟨n, path⟩, accepted⟩
    · cases List.mem_cons.mp hw with
      | inl equal =>
        subst equal
        exact result.kept hnone _ (marked _ (.inr rfl))
      | inr hw => exact result.stacked hnone w (List.mem_append_right _ hw)

end Explore

end LintRepair.Pattern
