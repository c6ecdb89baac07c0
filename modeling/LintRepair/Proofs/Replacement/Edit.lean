import LintRepair.Proofs.Replacement.Phrase

/-! # Edits

An edit puts the same text in place of every phrase that it seeks. A text is clean for an edit when
none of its phrases occurs there. An edit leaves a clean text alone; it cleans every text when what
it puts is foreign to its own phrases, and it keeps a text clean for another edit when what it puts
is foreign to the phrases of that.
-/

namespace LintRepair.Replacement

/-- The phrases that are sought, and what is put in the place of each. -/
structure Edit where
  sought : Phrase → Prop
  put : List Char

namespace Edit

variable {e a b : Edit} {f : Phrase} {text out before rest : List Char}

/-- The parts of a text that an edit replaces. -/
def hits (e : Edit) : Hits := fun before old after new =>
  ∃ f, e.sought f ∧ f.At before after ∧ old = f.chars ∧ new = e.put

/-- No phrase of the edit is empty. -/
def Solid (e : Edit) : Prop := ∀ f, e.sought f → f.chars ≠ []

/-- What an edit makes of a text. -/
def Yields (e : Edit) (text out : List Char) : Prop := Rewritten e.hits false [] text out

/-- No phrase of the edit occurs. -/
def Clean (e : Edit) (text : List Char) : Prop := ∀ f, e.sought f → ¬ f.Occurs text

/-- The edit makes every text clean for itself. -/
def Cleans (e : Edit) : Prop := ∀ text out, e.Yields text out → e.Clean out

/-- The first edit leaves texts clean for the second. -/
def Keeps (e a : Edit) : Prop := ∀ text out, e.Yields text out → a.Clean text → a.Clean out

theorem Solid.hits (h : e.Solid) : Replacement.Solid e.hits := by
  intro before after new hit
  obtain ⟨f, sought, -, hold, -⟩ := hit
  exact h f sought hold.symm

theorem starts_of_at (sought : e.sought f) {q : List Char} (here : f.At before q) :
    Starts e.hits before (f.chars ++ q) :=
  ⟨_, q, _, rfl, f, sought, here, rfl, rfl⟩

/-- A clean text is left alone. -/
theorem Yields.eq_of_clean (h : e.Yields text out) (clean : e.Clean text) : out = text := by
  cases h with
  | done => rfl
  | hit found =>
    obtain ⟨f, sought, here, rfl, rfl⟩ := found
    exact absurd ⟨_, _, rfl, here⟩ (clean f sought)

/-- The edit that puts a text in place of one phrase. -/
def replace (f : Phrase) (put : List Char) : Edit := ⟨(· = f), put⟩

section Replace

variable {put old after new : List Char}

theorem hits_replace_iff : (replace f put).hits before old after new ↔
    f.At before after ∧ old = f.chars ∧ new = put := by
  simp [hits, replace]

theorem solid_replace (h : f.chars ≠ []) : (replace f put).Solid := by
  intro g same
  subst same
  exact h

theorem starts_replace_iff : Starts (replace f put).hits before rest ↔
    ∃ after, rest = f.chars ++ after ∧ f.At before after := by
  simp only [Starts, hits_replace_iff]
  constructor
  · intro h
    obtain ⟨_, after, _, hrest, here, rfl, rfl⟩ := h
    exact ⟨after, hrest, here⟩
  · intro h
    obtain ⟨after, hrest, here⟩ := h
    exact ⟨_, after, _, hrest, here, rfl, rfl⟩

theorem clean_replace_iff : (replace f put).Clean text ↔ ¬ f.Occurs text := by
  simp [Clean, replace]

end Replace

/-- What the first edit puts is foreign to the phrases of the second. -/
def Spares (e a : Edit) : Prop := ∀ f, a.sought f → f.Foreign e.hits

theorem Spares.cleans (h : e.Spares e) (solid : e.Solid) : e.Cleans := by
  intro text out made f sought h
  obtain ⟨p, q, hout, here⟩ := h
  obtain ⟨p', q', -, here', idle⟩ := Rewritten.occurs made solid.hits (h f sought) hout here
  refine idle [] f.chars rfl (solid f sought) ?_
  rw [List.append_nil]
  exact starts_of_at sought here'

theorem Spares.keeps (h : e.Spares a) (solid : e.Solid) : e.Keeps a := by
  intro text out made clean f sought h
  obtain ⟨p, q, hout, here⟩ := h
  obtain ⟨p', q', htext, here', -⟩ := Rewritten.occurs made solid.hits (h f sought) hout here
  exact clean f sought ⟨p', q', htext, here'⟩

/-- An edit is foreign to a phrase when what it puts is apart from the phrase and meets the conditions
    of the phrase only where the replaced part did. -/
theorem foreign_of_ends (solid : e.Solid) (hput : e.put ≠ []) (apart : f.Apart e.put)
    (left : ∀ g, e.sought g → f.left e.put.getLast? → f.left g.chars.getLast?)
    (right : ∀ g, e.sought g → f.right e.put.head? → f.right g.chars.head?) : f.Foreign e.hits := by
  refine Phrase.foreign_of_apart ?_ ?_ ?_
  · intro before old after new hit
    obtain ⟨g, -, -, -, rfl⟩ := hit
    exact apart
  · intro before old after new hit x h
    obtain ⟨g, sought, -, rfl, rfl⟩ := hit
    rw [getLast?_append_of_ne_nil hput] at h
    rw [getLast?_append_of_ne_nil (solid g sought)]
    exact left g sought h
  · intro before old after new hit y y' h
    obtain ⟨g, sought, -, rfl, rfl⟩ := hit
    rw [head?_append_of_ne_nil hput] at h
    rw [head?_append_of_ne_nil (solid g sought)]
    exact right g sought h

/-- An edit spares phrases when it puts a character that they lack, with no end of theirs before it
    and no start after it. -/
theorem spares_of_pivot {c : Char} {u v : List Char} (solid : e.Solid) (hput : e.put = u ++ c :: v)
    (hne : a.Solid) (hc : ∀ f, a.sought f → c ∉ f.chars)
    (hu : ∀ f, a.sought f → ∀ d ∈ u, f.chars.getLast? ≠ some d)
    (hv : ∀ f, a.sought f → ∀ d ∈ v, f.chars.head? ≠ some d)
    (left : ∀ f, a.sought f → ∀ g, e.sought g → f.left e.put.getLast? → f.left g.chars.getLast?)
    (right : ∀ f, a.sought f → ∀ g, e.sought g → f.right e.put.head? → f.right g.chars.head?) :
    e.Spares a := by
  intro f sought
  have nonempty : e.put ≠ [] := by simp [hput]
  have apart : f.Apart e.put := by
    rw [hput]
    exact Phrase.apart_of_pivot (hne f sought) (hc f sought) (hu f sought) (hv f sought)
  exact foreign_of_ends solid nonempty apart (left f sought) (right f sought)

/-- The edit puts a character no more often than what it replaces had it. -/
def Lowers (c : Char) (e : Edit) : Prop := ∀ f, e.sought f → e.put.count c ≤ f.chars.count c

/-- The edit puts a character less often than what it replaces had it. -/
def Drops (c : Char) (e : Edit) : Prop := ∀ f, e.sought f → e.put.count c < f.chars.count c

section Count

variable {c : Char}

theorem Drops.lowers (h : e.Drops c) : e.Lowers c := fun f sought => Nat.le_of_lt (h f sought)

theorem Yields.count_le (h : e.Yields text out) (lowers : e.Lowers c) :
    out.count c ≤ text.count c := by
  refine Rewritten.count_le h ?_
  intro _ _ _ _ hit
  obtain ⟨f, sought, -, rfl, rfl⟩ := hit
  exact lowers f sought

theorem Yields.eq_of_count (h : e.Yields text out) (drops : e.Drops c)
    (kept : text.count c ≤ out.count c) : out = text := by
  refine Rewritten.eq_of_count h ?_ kept
  intro _ _ _ _ hit
  obtain ⟨f, sought, -, rfl, rfl⟩ := hit
  exact drops f sought

end Count

/-- Edits are made one after the other. -/
inductive Pass : List Edit → List Char → List Char → Prop where
  | nil {text : List Char} : Pass [] text text
  | cons {e : Edit} {es : List Edit} {text middle out : List Char} (head : e.Yields text middle)
      (tail : Pass es middle out) : Pass (e :: es) text out

namespace Pass

variable {es es' : List Edit}

theorem append_iff : Pass (es ++ es') text out ↔
    ∃ middle, Pass es text middle ∧ Pass es' middle out := by
  constructor
  · intro h
    induction es generalizing text with
    | nil => exact ⟨text, .nil, h⟩
    | cons e es ih =>
      cases h with
      | cons head tail =>
        obtain ⟨middle, first, second⟩ := ih tail
        exact ⟨middle, .cons head first, second⟩
  · intro h
    obtain ⟨middle, first, second⟩ := h
    induction first with
    | nil => exact second
    | cons head _ ih => exact .cons head (ih second)

theorem clean_of_keeps (h : Pass es text out) (keeps : ∀ e ∈ es, e.Keeps a)
    (clean : a.Clean text) : a.Clean out := by
  induction h with
  | nil => exact clean
  | cons head _ ih =>
    exact ih (fun e he => keeps e (List.mem_cons_of_mem _ he))
      (keeps _ List.mem_cons_self _ _ head clean)

/-- Edits that are foreign to a phrase do not make it occur. -/
theorem not_occurs (h : Pass es text out) (solid : ∀ e ∈ es, e.Solid)
    (foreign : ∀ e ∈ es, f.Foreign e.hits) (absent : ¬ f.Occurs text) : ¬ f.Occurs out := by
  have clean := h.clean_of_keeps (a := replace f []) (fun e he => Spares.keeps ?_ (solid e he))
    (clean_replace_iff.mpr absent)
  · exact clean_replace_iff.mp clean
  · intro _ same
    subst same
    exact foreign e he

/-- Edits that clean a text and keep it clean for those before them leave it clean for all of them. -/
theorem clean_of_pairwise (h : Pass es text out) (cleans : ∀ e ∈ es, e.Cleans)
    (keeps : es.Pairwise fun a e => e.Keeps a) : ∀ e ∈ es, e.Clean out := by
  induction h with
  | nil => simp
  | cons head tail ih =>
    obtain ⟨first, others⟩ := List.pairwise_cons.mp keeps
    intro e he
    cases List.mem_cons.mp he with
    | inl same =>
      subst same
      exact tail.clean_of_keeps first (cleans _ List.mem_cons_self _ _ head)
    | inr he => exact ih (fun e he => cleans e (List.mem_cons_of_mem _ he)) others e he

theorem eq_of_clean (h : Pass es text out) (clean : ∀ e ∈ es, e.Clean text) : out = text := by
  induction h with
  | nil => rfl
  | cons head _ ih =>
    obtain rfl := head.eq_of_clean (clean _ List.mem_cons_self)
    exact ih fun e he => clean e (List.mem_cons_of_mem _ he)

theorem count_le {c : Char} (h : Pass es text out) (lowers : ∀ e ∈ es, e.Lowers c) :
    out.count c ≤ text.count c := by
  induction h with
  | nil => exact Nat.le_refl _
  | cons head _ ih =>
    exact Nat.le_trans (ih fun e he => lowers e (List.mem_cons_of_mem _ he))
      (head.count_le (lowers _ List.mem_cons_self))

theorem eq_of_count {c : Char} (h : Pass es text out) (drops : ∀ e ∈ es, e.Drops c)
    (kept : text.count c ≤ out.count c) : out = text := by
  induction h with
  | nil => rfl
  | @cons e es text middle out head tail ih =>
    obtain ⟨drop, drops⟩ := List.forall_mem_cons.mp drops
    have second := tail.count_le fun e he => (drops e he).lowers
    have first := head.count_le drop.lowers
    obtain rfl := head.eq_of_count drop (Nat.le_trans kept second)
    exact ih drops kept

end Pass

end Edit

end LintRepair.Replacement
