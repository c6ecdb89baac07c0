import LintRepair.Proofs.Replacement.Scanner
import Mathlib.Data.List.Infix

/-! # Edits that do not meet

Two edits do not meet when nothing that one of them seeks can share a character with what the other seeks
or puts. If besides neither changes at its ends what the conditions of the other look at, each finds the
same before and after the other, and so it does not matter which is made first.
-/

namespace LintRepair.Replacement

/-- Nowhere within the first text does the second start, not even with a part that fills the rest. -/
def Clear (text sought : List Char) : Prop :=
  ∀ back, back <:+ text → back ≠ [] → ¬ back <+: sought ∧ ¬ sought <+: back

section Clear

variable {text sought back rest : List Char} {c : Char}

theorem clear_iff_tails : Clear text sought ↔
    ∀ back ∈ text.tails, back ≠ [] → ¬ back <+: sought ∧ ¬ sought <+: back := by
  simp only [Clear, List.mem_tails]

instance : Decidable (Clear text sought) := decidable_of_iff _ clear_iff_tails.symm

theorem Clear.of_suffix (h : Clear text sought) (suffix : back <:+ text) : Clear back sought :=
  fun _ inner => h _ (inner.trans suffix)

theorem Clear.not_starts (h : Clear text sought) (suffix : back <:+ text) (nonempty : back ≠ []) :
    ¬ sought <+: back ++ rest := by
  intro starts
  obtain ⟨notWithin, notWhole⟩ := h back suffix nonempty
  cases List.prefix_or_prefix_of_prefix starts (List.prefix_append back rest) with
  | inl whole => exact notWhole whole
  | inr within => exact notWithin within

/-- What starts with a character starts nowhere in a text without it. -/
theorem clear_of_head (first : sought.head? = some c) (absent : c ∉ text) : Clear text sought := by
  intro back suffix nonempty
  have other : back.head? ≠ some c := fun head => absent (suffix.mem (List.mem_of_mem_head? head))
  constructor
  · rintro ⟨more, rfl⟩
    exact other ((head?_append_of_ne_nil nonempty).symm.trans first)
  · rintro ⟨more, rfl⟩
    rw [List.head?_append, first] at other
    exact other rfl

end Clear

/-- Neither text starts within the other. -/
def Separate (x y : List Char) : Prop := Clear x y ∧ Clear y x

instance {x y : List Char} : Decidable (Separate x y) := inferInstanceAs (Decidable (_ ∧ _))

namespace Edit

variable {e a : Edit} {f g : Phrase} {put put' : List Char} {kind : Option Char → Prop}

/-- What one edit seeks can share no character with what the other seeks or puts. -/
structure Apart (e a : Edit) : Prop where
  sought : ∀ f g, e.sought f → a.sought g → Separate f.chars g.chars
  left : ∀ f, e.sought f → Separate f.chars a.put
  right : ∀ g, a.sought g → Separate g.chars e.put

theorem Apart.symm (h : e.Apart a) : a.Apart e :=
  ⟨fun g f hg hf => (h.sought f g hf hg).symm, h.right, h.left⟩

theorem apart_replace (sought : Separate f.chars g.chars) (left : Separate f.chars put')
    (right : Separate g.chars put) : (replace f put).Apart (replace g put') := by
  refine ⟨?_, ?_, ?_⟩
  · rintro _ _ rfl rfl
    exact sought
  · rintro _ rfl
    exact left
  · rintro _ rfl
    exact right

/-- The conditions of an edit on the characters beside a part depend only on their kind. -/
def LooksAt (e : Edit) (kind : Option Char → Prop) : Prop :=
  ∀ f, e.sought f → ∀ c d, (kind c ↔ kind d) → (f.left c ↔ f.left d) ∧ (f.right c ↔ f.right d)

/-- What an edit puts starts and ends with characters of the same kind as what it replaces. -/
structure KeepsEnds (e : Edit) (kind : Option Char → Prop) : Prop where
  nonempty : e.put ≠ []
  head : ∀ f, e.sought f → (kind f.chars.head? ↔ kind e.put.head?)
  last : ∀ f, e.sought f → (kind f.chars.getLast? ↔ kind e.put.getLast?)

/-- An edit that neither looks at more of the characters beside a part than their kind nor changes it. -/
structure Regular (e : Edit) (kind : Option Char → Prop) : Prop where
  solid : e.Solid
  looks : e.LooksAt kind
  ends : e.KeepsEnds kind

end Edit

namespace Scanner

variable {e a : Edit} {s t : Scanner} {kind : Option Char → Prop} {f : Phrase}
  {before before' rest after text : List Char}

theorem scan_of_none {c : Char} (none : s.size? before.getLast? (c :: rest) = none) :
    s.scan 0 before.getLast? (c :: rest) = c :: s.scan 0 (before ++ [c]).getLast? rest := by
  rw [scan, none, List.getLast?_concat]

/-- Text in which nothing starts that is sought is copied. -/
theorem scan_of_clear (makes : s.Makes e) (clear : ∀ f, e.sought f → Clear text f.chars)
    (before rest : List Char) : s.scan 0 before.getLast? (text ++ rest) =
      text ++ s.scan 0 (before ++ text).getLast? rest := by
  refine scan_of_idle makes fun u v split nonempty starts => ?_
  obtain ⟨_, after, _, whole, f, sought, -, rfl, -⟩ := starts
  exact (clear f sought).not_starts ⟨u, split.symm⟩ nonempty ⟨after, whole.symm⟩

/-- A scanner keeps the kind of the first character. -/
theorem kind_head?_scan (makes : s.Makes e) (regular : e.Regular kind) (before rest : List Char) :
    kind (s.scan 0 before.getLast? rest).head? ↔ kind rest.head? := by
  cases rest with
  | nil => rfl
  | cons c rest =>
    cases found : s.size? before.getLast? (c :: rest) with
    | none => rw [scan_of_none found]; rfl
    | some size =>
      obtain ⟨f, after, sought, split, -, rfl⟩ := (makes.finds _ _ _).mp found
      rw [split] at found ⊢
      rw [scan_of_found (regular.solid f sought) found, makes.put,
        head?_append_of_ne_nil regular.ends.nonempty,
        head?_append_of_ne_nil (regular.solid f sought)]
      exact (regular.ends.head f sought).symm

/-- Text in which nothing starts that is put was there before. -/
theorem prefix_of_prefix_scan (clear : Clear text s.put)
    (starts : text <+: s.scan 0 before.getLast? rest) : ∃ after, rest = text ++ after ∧
      s.scan 0 before.getLast? rest = text ++ s.scan 0 (before ++ text).getLast? after := by
  induction text generalizing before rest with
  | nil => exact ⟨rest, rfl, by simp⟩
  | cons c text ih =>
    cases rest with
    | nil => simp [scan] at starts
    | cons d rest =>
      cases found : s.size? before.getLast? (d :: rest) with
      | some size =>
        rw [scan, found] at starts
        refine absurd starts fun starts => ?_
        obtain ⟨notWithin, notWhole⟩ := clear _ List.suffix_rfl (List.cons_ne_nil c text)
        cases List.prefix_or_prefix_of_prefix starts (List.prefix_append s.put _) with
        | inl within => exact notWithin within
        | inr whole => exact notWhole whole
      | none =>
        rw [scan_of_none found] at starts
        obtain ⟨rfl, starts⟩ := List.cons_prefix_cons.mp starts
        obtain ⟨after, rfl, copied⟩ := ih (clear.of_suffix (List.suffix_cons c text)) starts
        refine ⟨after, rfl, ?_⟩
        rw [scan_of_none found, copied]
        simp

/-- It does not matter which of two scanners goes first through a text after other text, if each of them
    has before it what is of the same kind there. -/
def Exchange (kind : Option Char → Prop) (s t : Scanner) (rest : List Char) : Prop :=
  ∀ before before' before'' : List Char, (kind before'.getLast? ↔ kind before.getLast?) →
    (kind before''.getLast? ↔ kind before.getLast?) →
      s.scan 0 before'.getLast? (t.scan 0 before.getLast? rest) =
        t.scan 0 before''.getLast? (s.scan 0 before.getLast? rest)

theorem Exchange.symm (h : Exchange kind s t rest) : Exchange kind t s rest :=
  fun before before' before'' same same' => (h before before'' before' same' same).symm

section Exchange

variable (makes : s.Makes e) (makes' : t.Makes a) (h : e.Regular kind) (h' : a.Regular kind)
  (apart : e.Apart a)
include makes makes' h h' apart

/-- Where nothing is found, nothing is found after the other scanner either. -/
theorem size?_scan_of_none (same : kind before'.getLast? ↔ kind before.getLast?)
    (nothing : s.size? before.getLast? rest = none) :
    s.size? before'.getLast? (t.scan 0 before.getLast? rest) = none := by
  refine Option.eq_none_iff_forall_ne_some.mpr fun size found => ?_
  obtain ⟨f, after, sought, split, ⟨left, right⟩, -⟩ := (makes.finds _ _ _).mp found
  obtain ⟨after', rfl, copied⟩ := prefix_of_prefix_scan (makes'.put ▸ (apart.left f sought).1)
    ⟨after, split.symm⟩
  obtain rfl := List.append_cancel_left (split.symm.trans copied)
  have next := kind_head?_scan makes' h' (before ++ f.chars) after'
  have here : s.size? before.getLast? (f.chars ++ after') = some f.chars.length :=
    (makes.finds _ _ _).mpr ⟨f, after', sought, rfl, ⟨(h.looks f sought _ _ same).1.mp left,
      (h.looks f sought _ _ next).2.mp right⟩, rfl⟩
  rw [nothing] at here
  cases here

/-- A part that is found is replaced by the same, whichever scanner goes first. -/
theorem scan_scan_of_found (sought : e.sought f) (here : f.At before after)
    (rest : Exchange kind s t after) (same : kind before'.getLast? ↔ kind before.getLast?)
    (before'' : List Char) :
    s.scan 0 before'.getLast? (t.scan 0 before.getLast? (f.chars ++ after)) =
      t.scan 0 before''.getLast? (s.scan 0 before.getLast? (f.chars ++ after)) := by
  obtain ⟨left, right⟩ := here
  have solid := h.solid f sought
  have next := kind_head?_scan makes' h' (before ++ f.chars) after
  have first : s.size? before.getLast? (f.chars ++ after) = some f.chars.length :=
    (makes.finds _ _ _).mpr ⟨f, after, sought, rfl, ⟨left, right⟩, rfl⟩
  have second : s.size? before'.getLast?
      (f.chars ++ t.scan 0 (before ++ f.chars).getLast? after) = some f.chars.length :=
    (makes.finds _ _ _).mpr ⟨f, _, sought, rfl, ⟨(h.looks f sought _ _ same).1.mpr left,
      (h.looks f sought _ _ next).2.mpr right⟩, rfl⟩
  rw [scan_of_clear makes' (fun g hg => (apart.sought f g sought hg).1), scan_of_found solid second,
    scan_of_found solid first, scan_of_clear makes' (makes.put ▸ fun g hg => (apart.right g hg).2)]
  refine congrArg (s.put ++ ·) (rest _ _ _ ?_ ?_)
  · rw [getLast?_append_of_ne_nil solid, getLast?_append_of_ne_nil solid]
  · rw [getLast?_append_of_ne_nil solid, makes.put, getLast?_append_of_ne_nil h.ends.nonempty]
    exact (h.ends.last f sought).symm

theorem exchange (rest : List Char) : Exchange kind s t rest := by
  induction length : rest.length using Nat.strongRecOn generalizing rest with
  | ind n ih =>
    have shorter {f : Phrase} {after : List Char} (solid : f.chars ≠ [])
        (split : rest = f.chars ++ after) : Exchange kind s t after := by
      refine ih after.length ?_ after rfl
      have := List.length_pos_iff.mpr solid
      rw [← length, split, List.length_append]
      omega
    intro before before' before'' same same'
    cases first : s.size? before.getLast? rest with
    | some size =>
      obtain ⟨f, after, sought, split, here, -⟩ := (makes.finds _ _ _).mp first
      rw [split]
      exact scan_scan_of_found makes makes' h h' apart sought here
        (shorter (h.solid f sought) split) same before''
    | none =>
    cases second : t.size? before.getLast? rest with
    | some size =>
      obtain ⟨g, after, sought, split, here, -⟩ := (makes'.finds _ _ _).mp second
      rw [split]
      exact (scan_scan_of_found makes' makes h' h apart.symm sought here
        (shorter (h'.solid g sought) split).symm same' before').symm
    | none =>
      -- Neither finds anything here, before the other or after it.
      have first' := size?_scan_of_none makes makes' h h' apart same first
      have second' := size?_scan_of_none makes' makes h' h apart.symm same' second
      cases rest with
      | nil => rfl
      | cons c rest =>
        rw [scan_of_none second] at first' ⊢
        rw [scan_of_none first] at second' ⊢
        rw [scan_of_none first', scan_of_none second']
        refine congrArg (c :: ·) (ih rest.length ?_ rest rfl _ _ _ ?_ ?_)
        · rw [← length]
          exact Nat.lt_succ_self _
        · rw [List.getLast?_concat, List.getLast?_concat]
        · rw [List.getLast?_concat, List.getLast?_concat]

/-- Scanners of edits that do not meet can be exchanged. -/
theorem run_comm (text : List Char) : s.run (t.run text) = t.run (s.run text) :=
  exchange makes makes' h h' apart text [] [] [] Iff.rfl Iff.rfl

end Exchange

end Scanner

end LintRepair.Replacement
