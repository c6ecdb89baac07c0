import LintRepair.Proofs.Replacement.Rewriting

/-! # Phrases that a rewriting does not make

A phrase is a run of characters with conditions on the characters beside it. When nothing that a
rewriting puts into a text can share a character with a phrase, every occurrence of the phrase
afterwards comes from an occurrence before, in a part that was not replaced.
-/

namespace LintRepair.Replacement

/-- The last character of a text after another is the last of all. -/
theorem getLast?_append_of_ne_nil {α : Type} {xs ys : List α} (h : ys ≠ []) :
    (xs ++ ys).getLast? = ys.getLast? := by
  rw [List.getLast?_append, List.getLast?_eq_some_getLast h, Option.some_or]

theorem head?_append_of_ne_nil {α : Type} {xs ys : List α} (h : xs ≠ []) :
    (xs ++ ys).head? = xs.head? := by
  cases xs with
  | nil => exact absurd rfl h
  | cons x xs => rfl

/-- Characters together with conditions on the character before them and on the one after them. -/
structure Phrase where
  left : Option Char → Prop
  chars : List Char
  right : Option Char → Prop

namespace Phrase

/-- Characters without conditions on what is beside them. -/
def plain (chars : List Char) : Phrase := ⟨fun _ => True, chars, fun _ => True⟩

/-- A phrase stands at a place of a text. -/
def At (f : Phrase) (before after : List Char) : Prop :=
  f.left before.getLast? ∧ f.right after.head?

/-- A phrase occurs in a text after other text. -/
def OccursAfter (f : Phrase) (before text : List Char) : Prop :=
  ∃ p q, text = p ++ (f.chars ++ q) ∧ f.At (before ++ p) q

/-- A phrase occurs in a text. -/
def Occurs (f : Phrase) (text : List Char) : Prop := f.OccursAfter [] text

theorem Occurs.within {f : Phrase} {text : List Char} (h : f.Occurs text) : f.chars <:+: text := by
  obtain ⟨p, q, rfl, -⟩ := h
  exact ⟨p, q, List.append_assoc _ _ _⟩

/-- Characters put into a text share none of their places with a phrase. -/
def Apart (f : Phrase) (put : List Char) : Prop :=
  ∀ x y p q, x ++ (put ++ y) = p ++ (f.chars ++ q) →
    (∃ r, x = p ++ (f.chars ++ r)) ∨ ∃ r, p = x ++ (put ++ r)

/-- A rewriting leaves traces of a phrase. An occurrence in what it makes shares no character with
    what it puts into the text, or else the text that was there has the trace at that place. What it
    puts into the text meets the conditions of the phrase only where what it replaced did. -/
structure Traced (f : Phrase) (hits : Hits) (trace : List Char → List Char → Prop) : Prop where
  apart : ∀ before old after new, hits before old after new → ∀ y p q,
    before ++ (new ++ y) = p ++ (f.chars ++ q) → f.At p q →
      (∃ r, before = p ++ (f.chars ++ r)) ∨ (∃ r, p = before ++ (new ++ r)) ∨
        ∃ s, before = p ++ s ∧ trace p (s ++ (old ++ after))
  left : ∀ before old after new, hits before old after new → ∀ x,
    f.left (x ++ new).getLast? → f.left (x ++ old).getLast?
  right : ∀ before old after new, hits before old after new → ∀ y y',
    f.right (new ++ y).head? → f.right (old ++ y').head?

theorem Traced.mono {f : Phrase} {hits : Hits} {trace trace' : List Char → List Char → Prop}
    (h : f.Traced hits trace) (weaker : ∀ p q, trace p q → trace' p q) : f.Traced hits trace' where
  apart before old after new hit y p q split here := by
    rcases h.apart before old after new hit y p q split here with side | side | ⟨s, hs, trail⟩
    · exact .inl side
    · exact .inr (.inl side)
    · exact .inr (.inr ⟨s, hs, weaker _ _ trail⟩)
  left := h.left
  right := h.right

/-- A rewriting is foreign to a phrase when all that it puts into a text is apart from it. -/
def Foreign (f : Phrase) (hits : Hits) : Prop := f.Traced hits fun _ _ => False

theorem foreign_of_apart {f : Phrase} {hits : Hits}
    (apart : ∀ before old after new, hits before old after new → f.Apart new)
    (left : ∀ before old after new, hits before old after new → ∀ x,
      f.left (x ++ new).getLast? → f.left (x ++ old).getLast?)
    (right : ∀ before old after new, hits before old after new → ∀ y y',
      f.right (new ++ y).head? → f.right (old ++ y').head?) : f.Foreign hits where
  apart before old after new hit y p q h _ := by
    cases apart _ _ _ _ hit before y p q h with
    | inl side => exact .inl side
    | inr side => exact .inr (.inl side)
  left := left
  right := right

end Phrase

section Apart

variable {x y p q s u v : List Char} {c : Char}

/-- A run that lacks a character lies on one side of it. -/
theorem side_of_not_mem (h : u ++ c :: v = p ++ (s ++ q)) (hc : c ∉ s) :
    (∃ r, u = p ++ (s ++ r)) ∨ ∃ r, p = u ++ c :: r := by
  cases List.append_eq_append_iff.mp h with
  | inl side =>
    obtain ⟨a, rfl, ha⟩ := side
    cases a with
    | nil =>
      cases s with
      | nil => exact .inl ⟨[], by simp⟩
      | cons d s =>
        obtain ⟨rfl, -⟩ := List.cons.inj ha
        exact absurd List.mem_cons_self hc
    | cons d a =>
      obtain ⟨rfl, -⟩ := List.cons.inj ha
      exact .inr ⟨a, rfl⟩
  | inr side =>
    obtain ⟨a, rfl, ha⟩ := side
    cases List.append_eq_append_iff.mp ha with
    | inl found =>
      obtain ⟨b, rfl, -⟩ := found
      exact .inl ⟨b, rfl⟩
    | inr found =>
      obtain ⟨b, rfl, hb⟩ := found
      cases b with
      | nil => exact .inl ⟨[], by simp⟩
      | cons d b =>
        obtain ⟨rfl, -⟩ := List.cons.inj hb
        exact absurd (List.mem_append_right _ List.mem_cons_self) hc

/-- A run does not end in characters that are not its last. -/
theorem left_of_getLast_not_mem (h : x ++ u = p ++ (s ++ q)) (hne : s ≠ [])
    (hu : ∀ d ∈ u, s.getLast? ≠ some d) : ∃ r, x = p ++ (s ++ r) := by
  have hlast := List.getLast?_eq_some_getLast hne
  rcases List.append_eq_append_iff.mp h with ⟨a, rfl, rfl⟩ | ⟨a, rfl, ha⟩
  · exact absurd hlast (hu _ (by simp))
  cases List.append_eq_append_iff.mp ha with
  | inl side =>
    obtain ⟨b, rfl, -⟩ := side
    exact ⟨b, rfl⟩
  | inr side =>
    obtain ⟨b, rfl, rfl⟩ := side
    by_cases hb : b = []
    · exact ⟨[], by simp [hb]⟩
    · rw [List.getLast?_append, List.getLast?_eq_some_getLast hb, Option.some_or] at hu
      exact absurd rfl (hu _ (List.mem_append_left _ (List.getLast_mem hb)))

/-- A run does not start in characters that are not its first. -/
theorem right_of_head_not_mem (h : u ++ y = p ++ (s ++ q)) (hne : s ≠ [])
    (hu : ∀ d ∈ u, s.head? ≠ some d) : ∃ r, p = u ++ r := by
  rcases List.append_eq_append_iff.mp h with ⟨a, rfl, -⟩ | ⟨a, rfl, ha⟩
  · exact ⟨a, rfl⟩
  cases a with
  | nil => exact ⟨[], by simp⟩
  | cons d a =>
    cases s with
    | nil => exact absurd rfl hne
    | cons e s =>
      obtain ⟨rfl, -⟩ := List.cons.inj ha
      exact absurd rfl (hu e (List.mem_append_right _ List.mem_cons_self))

/-- A pivot keeps a phrase away from what is put into a text: a character that the phrase lacks, with
    no end of the phrase before it and no start of the phrase after it. -/
theorem Phrase.apart_of_pivot {f : Phrase} (hne : f.chars ≠ []) (hc : c ∉ f.chars)
    (hu : ∀ d ∈ u, f.chars.getLast? ≠ some d) (hv : ∀ d ∈ v, f.chars.head? ≠ some d) :
    f.Apart (u ++ c :: v) := by
  intro x y p q h
  rw [List.append_assoc, ← List.append_assoc, List.cons_append] at h
  cases side_of_not_mem h hc with
  | inl side =>
    obtain ⟨r, hr⟩ := side
    exact .inl (left_of_getLast_not_mem hr hne hu)
  | inr side =>
    obtain ⟨r, rfl⟩ := side
    rw [List.append_assoc (x ++ u), List.cons_append] at h
    have hrest := (List.cons.inj (List.append_cancel_left h)).2
    obtain ⟨r', rfl⟩ := right_of_head_not_mem hrest hne hv
    exact .inr ⟨r', by simp⟩

end Apart

section Rewriting

variable {f : Phrase} {hits : Hits} {trace : List Char → List Char → Prop}

private theorem Phrase.Traced.left_of_append (traced : f.Traced hits trace)
    {before old after new x : List Char} (hit : hits before old after new) (r : List Char)
    (h : f.left (x ++ (new ++ r)).getLast?) : f.left (x ++ (old ++ r)).getLast? := by
  rw [← List.append_assoc] at h ⊢
  by_cases hr : r = []
  · subst hr
    rw [List.append_nil] at h ⊢
    exact traced.left _ _ _ _ hit x h
  · rwa [List.getLast?_append, List.getLast?_eq_some_getLast hr, Option.some_or] at h ⊢

private theorem Phrase.Traced.right_of_append (traced : f.Traced hits trace)
    {before old after new y y' : List Char} (hit : hits before old after new) (r : List Char)
    (h : f.right (r ++ (new ++ y)).head?) : f.right (r ++ (old ++ y')).head? := by
  cases r with
  | nil => exact traced.right _ _ _ _ hit y y' h
  | cons d r => exact h

/-- Where a phrase occurs in what a rewriting made, the text before had its trace, or the phrase
    itself with no replaced part that starts in it. -/
theorem Rewritten.traces {ended : Bool} {before rest out p q : List Char}
    (h : Rewritten hits ended before rest out) (solid : Solid hits) (traced : f.Traced hits trace)
    (hout : out = p ++ (f.chars ++ q)) (here : f.At (before ++ p) q) :
    ∃ p' q', rest = p' ++ q' ∧ (trace (before ++ p') q' ∨
      ∃ r, q' = f.chars ++ r ∧ f.At (before ++ p') r ∧ Idle hits (before ++ p') f.chars r) := by
  induction h generalizing p with
  | @done _ before rest passed =>
    refine ⟨p, f.chars ++ q, hout, .inr ⟨q, rfl, here, fun u v huv hv => ?_⟩⟩
    have := (passed (p ++ u) (v ++ q) (by rw [hout, huv]; simp)).not_starts solid
    rwa [← List.append_assoc] at this
  | @hit ended before gap old after new out found _ passed _ ih =>
    have apart := traced.apart _ _ _ _ found out (before ++ p) q
      (by rw [List.append_assoc, hout, List.append_assoc]) here
    rcases apart with ⟨r, hr⟩ | ⟨r, hr⟩ | ⟨s, hs, trail⟩
    · -- The occurrence ends before the replaced part starts.
      rw [List.append_assoc] at hr
      obtain rfl := List.append_cancel_left hr
      have hq : q = r ++ (new ++ out) := by
        simpa [List.append_assoc] using hout.symm
      refine ⟨p, f.chars ++ (r ++ (old ++ after)), by simp, .inr ⟨_, rfl, ⟨here.1, ?_⟩, ?_⟩⟩
      · exact traced.right_of_append found r (hq ▸ here.2)
      · intro u v huv hv
        have := (passed (p ++ u) (v ++ r) (by rw [huv]; simp) (by simp [hv])).not_starts solid
        simpa using this
    · -- The occurrence starts after the replaced part.
      rw [List.append_assoc] at hr
      obtain rfl := List.append_cancel_left hr
      have hout' : out = r ++ (f.chars ++ q) := by
        simpa [List.append_assoc] using hout
      have hl := here.1
      rw [← List.append_assoc] at hl
      have hl := traced.left_of_append found r hl
      rw [← List.append_assoc] at hl
      obtain ⟨p', q', rfl, origin⟩ := ih hout' ⟨hl, here.2⟩
      refine ⟨gap ++ (old ++ p'), q', by simp, ?_⟩
      rw [← List.append_assoc before, ← List.append_assoc _ old]
      exact origin
    · rw [List.append_assoc] at hs
      obtain rfl := List.append_cancel_left hs
      exact ⟨p, s ++ (old ++ after), by simp, .inl trail⟩

/-- An occurrence of a phrase in what a foreign rewriting made was there before, and no replaced part
    starts in it. -/
theorem Rewritten.occurs {ended : Bool} {before rest out p q : List Char}
    (h : Rewritten hits ended before rest out) (solid : Solid hits) (foreign : f.Foreign hits)
    (hout : out = p ++ (f.chars ++ q)) (here : f.At (before ++ p) q) :
    ∃ p' q', rest = p' ++ (f.chars ++ q') ∧ f.At (before ++ p') q' ∧
      Idle hits (before ++ p') f.chars q' := by
  obtain ⟨p', q', hrest, none | ⟨r, rfl, here', idle⟩⟩ := h.traces solid foreign hout here
  · exact none.elim
  · exact ⟨p', r, hrest, here', idle⟩

end Rewriting

end LintRepair.Replacement
