import LintRepair.Text.Utf8
import Mathlib.Tactic.Common

/-! # The bytes of a character

A first byte says how many bytes follow it and bounds the first of these. The bytes that keep to this,
and all of them, are just the bytes of the characters; some of them are just the beginnings of the
bytes of characters. No character's bytes begin those of another.
-/

namespace LintRepair.Text.Utf8

variable {b lo hi x y z : UInt8} {owed n v : Nat} {bs front more : List UInt8} {c d : Char}

/-- The number of bytes that a first byte asks for and the bounds of the first of them. A byte below
    `0x80` is a character of its own. -/
def owes? (b : UInt8) : Option (Nat × UInt8 × UInt8) :=
  if b < 0x80 then some (0, 0x80, 0xBF) else lead? b

/-- The first bytes by ranges: the number of bytes that follow, and the bounds of the first of them. -/
inductive Lead : Nat → Nat → UInt8 → UInt8 → Prop where
  | one {n : Nat} : n < 0x80 → Lead n 0 0x80 0xBF
  -- `0xC0` and `0xC1` would start longer forms of the code points below `0x80`.
  | two {n : Nat} : 0xC2 ≤ n → n < 0xE0 → Lead n 1 0x80 0xBF
  | threeLow : Lead 0xE0 2 0xA0 0xBF
  | three {n : Nat} : 0xE0 < n → n < 0xF0 → n ≠ 0xED → Lead n 2 0x80 0xBF
  -- From `0xED 0xA0` on there would be surrogates.
  | threeGap : Lead 0xED 2 0x80 0x9F
  | fourLow : Lead 0xF0 3 0x90 0xBF
  | four {n : Nat} : 0xF0 < n → n < 0xF4 → Lead n 3 0x80 0xBF
  | fourHigh : Lead 0xF4 3 0x80 0x8F

theorem owes?_eq (b : UInt8) : owes? b =
    if b.toNat < 0x80 then some (0, 0x80, 0xBF)
    else if b.toNat < 0xC2 then none
    else if b.toNat < 0xE0 then some (1, 0x80, 0xBF)
    else if b.toNat = 0xE0 then some (2, 0xA0, 0xBF)
    else if b.toNat = 0xED then some (2, 0x80, 0x9F)
    else if b.toNat < 0xF0 then some (2, 0x80, 0xBF)
    else if b.toNat = 0xF0 then some (3, 0x90, 0xBF)
    else if b.toNat < 0xF4 then some (3, 0x80, 0xBF)
    else if b.toNat = 0xF4 then some (3, 0x80, 0x8F)
    else none := by
  simp only [owes?, lead?, UInt8.lt_iff_toNat_lt, ← UInt8.toNat_inj]
  rfl

theorem owes?_eq_some_iff : owes? b = some (owed, lo, hi) ↔ Lead b.toNat owed lo hi := by
  rw [owes?_eq]
  generalize b.toNat = n
  constructor
  · intro h
    split at h
    · cases h
      exact .one ‹_›
    split at h
    · cases h
    split at h
    · cases h
      exact .two (by omega) ‹_›
    split at h
    · cases h
      subst n
      exact .threeLow
    split at h
    · cases h
      subst n
      exact .threeGap
    split at h
    · cases h
      exact .three (by omega) (by omega) (by omega)
    split at h
    · cases h
      subst n
      exact .fourLow
    split at h
    · cases h
      exact .four (by omega) (by omega)
    split at h
    · cases h
      subst n
      exact .fourHigh
    · cases h
  · intro h
    cases h with
    | one below => rw [if_pos below]
    | two above below => rw [if_neg (by omega), if_neg (by omega), if_pos below]
    | three above below gap =>
      rw [if_neg (by omega), if_neg (by omega), if_neg (by omega), if_neg (by omega), if_neg gap,
        if_pos below]
    | four above below =>
      rw [if_neg (by omega), if_neg (by omega), if_neg (by omega), if_neg (by omega),
        if_neg (by omega), if_neg (by omega), if_neg (by omega), if_pos below]
    | threeLow | threeGap | fourLow | fourHigh => rfl

theorem Lead.owed_le (h : Lead n owed lo hi) : owed ≤ 3 := by
  cases h <;> decide

theorem Lead.lo_le_hi (h : Lead n owed lo hi) : lo ≤ hi := by
  cases h <;> decide

/-- Bytes that are owed, all or the first of them: the first within bounds, and the others as they are
    after any first byte. -/
inductive Fits : Nat → UInt8 → UInt8 → List UInt8 → Prop where
  | nil {owed : Nat} {lo hi : UInt8} : Fits owed lo hi []
  | cons {owed : Nat} {lo hi b : UInt8} {bs : List UInt8} :
    lo ≤ b → b ≤ hi → Fits owed 0x80 0xBF bs → Fits (owed + 1) lo hi (b :: bs)

@[simp]
theorem fits_cons_iff : Fits (owed + 1) lo hi (b :: bs) ↔
    (lo.toNat ≤ b.toNat ∧ b.toNat ≤ hi.toNat) ∧ Fits owed 0x80 0xBF bs := by
  constructor
  · rintro (_ | ⟨above, below, rest⟩)
    exact ⟨⟨above, below⟩, rest⟩
  · rintro ⟨⟨above, below⟩, rest⟩
    exact .cons above below rest

theorem Fits.length_le (h : Fits owed lo hi bs) : bs.length ≤ owed := by
  induction h with
  | nil => exact Nat.zero_le _
  | cons _ _ _ ih => exact Nat.succ_le_succ ih

theorem Fits.shorter (h : Fits owed lo hi bs) (begins : front <+: bs) : Fits owed lo hi front := by
  induction h generalizing front with
  | nil =>
    rw [List.prefix_nil.mp begins]
    exact .nil
  | cons above below _ ih =>
    rcases List.prefix_cons_iff.mp begins with rfl | ⟨tail, rfl, rest⟩
    · exact .nil
    · exact .cons above below (ih rest)

/-- Bytes that fit lack just as many as are owed still. -/
theorem Fits.completed (h : Fits owed lo hi bs) (bounds : lo ≤ hi) :
    ∃ more, Fits owed lo hi (bs ++ more) ∧ (bs ++ more).length = owed := by
  induction h with
  | @nil owed lo hi =>
    have rest : ∀ n, Fits n 0x80 0xBF (List.replicate n 0x80) := by
      intro n
      induction n with
      | zero => exact .nil
      | succ n ih => exact .cons (by decide) (by decide) ih
    cases owed with
    | zero => exact ⟨[], .nil, rfl⟩
    | succ owed =>
      exact ⟨lo :: List.replicate owed 0x80, .cons (UInt8.le_refl lo) bounds (rest owed), by simp⟩
  | cons above below _ ih =>
    obtain ⟨more, fits, length⟩ := ih (by decide)
    exact ⟨more, .cons above below fits, by simpa using length⟩

/-- A first byte and all the bytes that it asks for. -/
def Forms (b : UInt8) (bs : List UInt8) : Prop :=
  ∃ owed lo hi, owes? b = some (owed, lo, hi) ∧ Fits owed lo hi bs ∧ bs.length = owed

theorem forms_iff_of_owes (lead : owes? b = some (owed, lo, hi)) :
    Forms b bs ↔ Fits owed lo hi bs ∧ bs.length = owed := by
  constructor
  · rintro ⟨owed', lo', hi', found, fits, length⟩
    cases lead.symm.trans found
    exact ⟨fits, length⟩
  · rintro ⟨fits, length⟩
    exact ⟨owed, lo, hi, lead, fits, length⟩

section Code

/-! Six bits of a code point go in each byte but the first. -/

theorem encode_one (h : c.val.toNat < 0x80) :
    String.utf8EncodeChar c = [.ofNat c.val.toNat] := by
  rw [String.utf8EncodeChar, if_pos (by omega)]

theorem encode_two (above : 0x80 ≤ c.val.toNat) (below : c.val.toNat < 0x800) :
    String.utf8EncodeChar c =
      [.ofNat (0xC0 + c.val.toNat / 64), .ofNat (0x80 + c.val.toNat % 64)] := by
  rw [String.utf8EncodeChar, if_neg (by omega), if_pos (by omega), Nat.mod_eq_of_lt (by omega),
    Nat.add_comm, Nat.add_comm 0x80]

theorem encode_three (above : 0x800 ≤ c.val.toNat) (below : c.val.toNat < 0x10000) :
    String.utf8EncodeChar c =
      [.ofNat (0xE0 + c.val.toNat / 4096), .ofNat (0x80 + c.val.toNat / 64 % 64),
        .ofNat (0x80 + c.val.toNat % 64)] := by
  have first : c.val.toNat / 4096 < 16 := by omega
  simp only [String.utf8EncodeChar, if_neg (show ¬c.val.toNat ≤ 0x7f by omega),
    if_neg (show ¬c.val.toNat ≤ 0x7ff by omega), if_pos (show c.val.toNat ≤ 0xffff by omega),
    Nat.mod_eq_of_lt first, Nat.add_comm]

theorem encode_four (above : 0x10000 ≤ c.val.toNat) :
    String.utf8EncodeChar c =
      [.ofNat (0xF0 + c.val.toNat / 262144), .ofNat (0x80 + c.val.toNat / 4096 % 64),
        .ofNat (0x80 + c.val.toNat / 64 % 64), .ofNat (0x80 + c.val.toNat % 64)] := by
  have valid := c.valid
  rw [UInt32.isValidChar, Nat.isValidChar] at valid
  have first : c.val.toNat / 262144 < 8 := by omega
  simp only [String.utf8EncodeChar, if_neg (show ¬c.val.toNat ≤ 0x7f by omega),
    if_neg (show ¬c.val.toNat ≤ 0x7ff by omega), if_neg (show ¬c.val.toNat ≤ 0xffff by omega),
    Nat.mod_eq_of_lt first, Nat.add_comm]

theorem fits_ofNat (above : lo.toNat ≤ n) (below : n ≤ hi.toNat) (rest : Fits owed 0x80 0xBF bs) :
    Fits (owed + 1) lo hi (.ofNat n :: bs) := by
  have size := hi.toNat_lt
  have here : (UInt8.ofNat n).toNat = n := UInt8.toNat_ofNat_of_lt' (show n < 256 by omega)
  exact fits_cons_iff.mpr ⟨by rw [here]; exact ⟨above, below⟩, rest⟩

theorem fits_six (h : n < 64) (rest : Fits owed 0x80 0xBF bs) :
    Fits (owed + 1) 0x80 0xBF (.ofNat (0x80 + n) :: bs) :=
  fits_ofNat (Nat.le_add_right 0x80 n) (show 0x80 + n ≤ 0xBF by omega) rest

theorem forms_of_lead (lead : Lead n owed lo hi) (size : n < 256) (fits : Fits owed lo hi bs)
    (length : bs.length = owed) : Forms (.ofNat n) bs := by
  refine ⟨owed, lo, hi, ?_, fits, length⟩
  rw [owes?_eq_some_iff, UInt8.toNat_ofNat_of_lt' size]
  exact lead

/-- The bytes of a character are a first byte and what it asks for. -/
theorem forms_utf8EncodeChar (c : Char) :
    ∃ b bs, String.utf8EncodeChar c = b :: bs ∧ Forms b bs := by
  have valid := c.valid
  rw [UInt32.isValidChar, Nat.isValidChar] at valid
  by_cases one : c.val.toNat < 0x80
  · exact ⟨_, _, encode_one one, forms_of_lead (.one one) (by omega) .nil rfl⟩
  by_cases two : c.val.toNat < 0x800
  · exact ⟨_, _, encode_two (by omega) two,
      forms_of_lead (.two (by omega) (by omega)) (by omega) (fits_six (by omega) .nil) rfl⟩
  by_cases three : c.val.toNat < 0x10000
  · refine ⟨_, _, encode_three (by omega) three, ?_⟩
    generalize c.val.toNat = v at *
    have last : Fits 1 0x80 0xBF [.ofNat (0x80 + v % 64)] := fits_six (by omega) .nil
    by_cases low : v / 4096 = 0
    · rw [low]
      exact forms_of_lead .threeLow (by omega)
        (fits_ofNat (show 0xA0 ≤ _ by omega) (show _ ≤ 0xBF by omega) last) rfl
    by_cases gap : v / 4096 = 13
    · rw [gap]
      exact forms_of_lead .threeGap (by omega)
        (fits_ofNat (show 0x80 ≤ _ by omega) (show _ ≤ 0x9F by omega) last) rfl
    · exact forms_of_lead (.three (by omega) (by omega) (by omega)) (by omega)
        (fits_six (by omega) last) rfl
  · refine ⟨_, _, encode_four (by omega), ?_⟩
    generalize c.val.toNat = v at *
    have last : Fits 2 0x80 0xBF [.ofNat (0x80 + v / 64 % 64), .ofNat (0x80 + v % 64)] :=
      fits_six (by omega) (fits_six (by omega) .nil)
    by_cases low : v / 262144 = 0
    · rw [low]
      exact forms_of_lead .fourLow (by omega)
        (fits_ofNat (show 0x90 ≤ _ by omega) (show _ ≤ 0xBF by omega) last) rfl
    by_cases high : v / 262144 = 4
    · rw [high]
      exact forms_of_lead .fourHigh (by omega)
        (fits_ofNat (show 0x80 ≤ _ by omega) (show _ ≤ 0x8F by omega) last) rfl
    · exact forms_of_lead (.four (by omega) (by omega)) (by omega) (fits_six (by omega) last) rfl

theorem exists_char (h : v.isValidChar) : ∃ c : Char, c.val.toNat = v :=
  ⟨Char.ofNatAux v h, rfl⟩

theorem ofNat_eq (h : n = b.toNat) : UInt8.ofNat n = b := by
  rw [h, UInt8.ofNat_toNat]

theorem exists_one (lead : Lead b.toNat 0 lo hi) : ∃ c, String.utf8EncodeChar c = [b] := by
  have below : b.toNat < 0x80 := by
    generalize b.toNat = n at lead
    cases lead with
    | one below => exact below
  obtain ⟨c, hc⟩ := exists_char (v := b.toNat) (.inl (by omega))
  refine ⟨c, ?_⟩
  rw [encode_one (by omega), hc, UInt8.ofNat_toNat]

theorem exists_two (lead : Lead b.toNat 1 lo hi) (hx : lo.toNat ≤ x.toNat ∧ x.toNat ≤ hi.toNat) :
    ∃ c, String.utf8EncodeChar c = [b, x] := by
  have bounds : 0xC2 ≤ b.toNat ∧ b.toNat < 0xE0 ∧ 0x80 ≤ x.toNat ∧ x.toNat ≤ 0xBF := by
    generalize b.toNat = n at lead
    cases lead with
    | two above below => exact ⟨above, below, hx⟩
  obtain ⟨c, hc⟩ := exists_char (v := (b.toNat - 0xC0) * 64 + (x.toNat - 0x80)) (.inl (by omega))
  refine ⟨c, ?_⟩
  rw [encode_two (by omega) (by omega), hc, ofNat_eq (b := b) (by omega),
    ofNat_eq (b := x) (by omega)]

theorem exists_three (lead : Lead b.toNat 2 lo hi) (hx : lo.toNat ≤ x.toNat ∧ x.toNat ≤ hi.toNat)
    (hy : 0x80 ≤ y.toNat ∧ y.toNat ≤ 0xBF) : ∃ c, String.utf8EncodeChar c = [b, x, y] := by
  have bounds : 0xE0 ≤ b.toNat ∧ b.toNat < 0xF0 ∧ 0x80 ≤ x.toNat ∧ x.toNat ≤ 0xBF ∧
      (b.toNat = 0xE0 → 0xA0 ≤ x.toNat) ∧ (b.toNat = 0xED → x.toNat ≤ 0x9F) := by
    generalize b.toNat = n at lead ⊢
    cases lead <;> simp only [UInt8.reduceToNat] at hx <;> omega
  obtain ⟨c, hc⟩ := exists_char
    (v := (b.toNat - 0xE0) * 4096 + (x.toNat - 0x80) * 64 + (y.toNat - 0x80)) (by
      rw [Nat.isValidChar]
      omega)
  refine ⟨c, ?_⟩
  rw [encode_three (by omega) (by omega), hc, ofNat_eq (b := b) (by omega),
    ofNat_eq (b := x) (by omega), ofNat_eq (b := y) (by omega)]

theorem exists_four (lead : Lead b.toNat 3 lo hi) (hx : lo.toNat ≤ x.toNat ∧ x.toNat ≤ hi.toNat)
    (hy : 0x80 ≤ y.toNat ∧ y.toNat ≤ 0xBF) (hz : 0x80 ≤ z.toNat ∧ z.toNat ≤ 0xBF) :
    ∃ c, String.utf8EncodeChar c = [b, x, y, z] := by
  have bounds : 0xF0 ≤ b.toNat ∧ b.toNat < 0xF5 ∧ 0x80 ≤ x.toNat ∧ x.toNat ≤ 0xBF ∧
      (b.toNat = 0xF0 → 0x90 ≤ x.toNat) ∧ (b.toNat = 0xF4 → x.toNat ≤ 0x8F) := by
    generalize b.toNat = n at lead ⊢
    cases lead <;> simp only [UInt8.reduceToNat] at hx <;> omega
  obtain ⟨c, hc⟩ := exists_char
    (v := (b.toNat - 0xF0) * 262144 + (x.toNat - 0x80) * 4096 + (y.toNat - 0x80) * 64 +
      (z.toNat - 0x80)) (by
      rw [Nat.isValidChar]
      omega)
  refine ⟨c, ?_⟩
  rw [encode_four (by omega), hc, ofNat_eq (b := b) (by omega), ofNat_eq (b := x) (by omega),
    ofNat_eq (b := y) (by omega), ofNat_eq (b := z) (by omega)]

end Code

/-- The first bytes with all that they ask for are the bytes of the characters. -/
theorem exists_utf8EncodeChar_iff :
    (∃ c, String.utf8EncodeChar c = b :: bs) ↔ Forms b bs := by
  constructor
  · rintro ⟨c, hc⟩
    obtain ⟨b', bs', hc', forms⟩ := forms_utf8EncodeChar c
    obtain ⟨rfl, rfl⟩ := List.cons.inj (hc.symm.trans hc')
    exact forms
  · rintro ⟨owed, lo, hi, lead, fits, length⟩
    rw [owes?_eq_some_iff] at lead
    match bs, length, lead.owed_le with
    | [], rfl, _ => exact exists_one lead
    | [x], rfl, _ => exact exists_two lead (fits_cons_iff.mp fits).1
    | [x, y], rfl, _ =>
      obtain ⟨hx, fits⟩ := fits_cons_iff.mp fits
      exact exists_three lead hx (fits_cons_iff.mp fits).1
    | [x, y, z], rfl, _ =>
      obtain ⟨hx, fits⟩ := fits_cons_iff.mp fits
      obtain ⟨hy, fits⟩ := fits_cons_iff.mp fits
      exact exists_four lead hx hy (fits_cons_iff.mp fits).1

/-- Bytes that begin the bytes of a character. -/
def Begins (bs : List UInt8) : Prop := ∃ c, bs <+: String.utf8EncodeChar c

theorem begins_nil : Begins [] := ⟨'a', List.nil_prefix⟩

theorem begins_cons_iff :
    Begins (b :: bs) ↔ ∃ owed lo hi, owes? b = some (owed, lo, hi) ∧ Fits owed lo hi bs := by
  constructor
  · rintro ⟨c, begins⟩
    obtain ⟨b', bs', hc, owed, lo, hi, lead, fits, -⟩ := forms_utf8EncodeChar c
    rw [hc, List.cons_prefix_cons] at begins
    obtain ⟨rfl, begins⟩ := begins
    exact ⟨owed, lo, hi, lead, fits.shorter begins⟩
  · rintro ⟨owed, lo, hi, lead, fits⟩
    obtain ⟨more, fits, length⟩ := fits.completed (owes?_eq_some_iff.mp lead).lo_le_hi
    obtain ⟨c, hc⟩ := exists_utf8EncodeChar_iff.mpr ⟨owed, lo, hi, lead, fits, length⟩
    exact ⟨c, more, hc.symm⟩

theorem begins_iff_of_owes (lead : owes? b = some (owed, lo, hi)) :
    Begins (b :: bs) ↔ Fits owed lo hi bs := by
  rw [begins_cons_iff]
  constructor
  · rintro ⟨owed', lo', hi', found, fits⟩
    cases lead.symm.trans found
    exact fits
  · intro fits
    exact ⟨owed, lo, hi, lead, fits⟩

/-- No character's bytes begin those of another. -/
theorem eq_of_encodings (h : String.utf8EncodeChar c <+: String.utf8EncodeChar d) :
    c = d := by
  obtain ⟨more, eq⟩ := h
  have read := ByteArray.utf8DecodeChar?_utf8EncodeChar_append (b := more.toByteArray) (c := c)
  rw [← List.toByteArray_append, eq] at read
  have own := ByteArray.utf8DecodeChar?_utf8EncodeChar_append (b := ByteArray.empty) (c := d)
  rw [ByteArray.append_empty, read] at own
  exact Option.some.inj own

end LintRepair.Text.Utf8
