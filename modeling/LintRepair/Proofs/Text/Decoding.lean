import LintRepair.Proofs.Text.Encoding

/-! # Where bytes stop being text

What stands at the beginning of bytes is a character, the beginning of one that the end cuts off, or
neither. Bytes are the bytes of characters up to where there is no further one. There a fault is, and
it says how long the text is and what follows it.
-/

namespace LintRepair.Text.Utf8

variable {b lo hi : UInt8} {owed seen n m start : Nat} {bs rest front back bytes : List UInt8}
  {cs ds : List Char} {fault fault' : DecodeFault}

/-- The bytes of a text. -/
def IsText (bs : List UInt8) : Prop := ∃ text : String, text.toUTF8.toList = bs

/-- The first bytes of a character, and not all of its bytes. -/
def CutOff (bs : List UInt8) : Prop :=
  ∃ c, bs <+: String.utf8EncodeChar c ∧ bs ≠ String.utf8EncodeChar c

/-- The length of the longest part at the beginning that has a property. -/
structure Longest (P : List UInt8 → Prop) (bs : List UInt8) (n : Nat) : Prop where
  le : n ≤ bs.length
  has : P (bs.take n)
  longest : ∀ m, m ≤ bs.length → P (bs.take m) → m ≤ n

/-- What a fault says of bytes that are no text: how long the text at their beginning is, and what
    follows it there. -/
inductive DecodeFault.Describes (bytes : List UInt8) : DecodeFault → Prop where
  | incomplete {start : Nat} : Longest IsText bytes start → CutOff (bytes.drop start) →
    Describes bytes (.incomplete start)
  | invalid {start n : Nat} : Longest IsText bytes start → ¬CutOff (bytes.drop start) →
    Longest Begins (bytes.drop start) n → Describes bytes (.invalid (max 1 n) start)

section Longest

variable {P : List UInt8 → Prop}

theorem Longest.unique (h : Longest P bs n) (h' : Longest P bs m) : n = m :=
  Nat.le_antisymm (h'.longest n h.le h.has) (h.longest m h'.le h'.has)

theorem longest_of_append (has : P front)
    (longest : ∀ other, other <+: front ++ back → P other → other.length ≤ front.length) :
    Longest P (front ++ back) front.length := by
  refine ⟨by simp, by rwa [List.take_left], fun m le hm => ?_⟩
  have short := longest _ (List.take_prefix m _) hm
  rwa [List.length_take_of_le le] at short

theorem longest_self (has : P bs) : Longest P bs bs.length :=
  ⟨Nat.le_refl _, by rwa [List.take_length], fun _ le _ => le⟩

theorem DecodeFault.Describes.unique (h : fault.Describes bytes) (h' : fault'.Describes bytes) :
    fault = fault' := by
  cases h with
  | incomplete text cut =>
    cases h' with
    | incomplete text' _ => rw [text.unique text']
    | invalid text' uncut _ =>
      obtain rfl := text.unique text'
      exact absurd cut uncut
  | invalid text uncut longest =>
    cases h' with
    | incomplete text' cut =>
      obtain rfl := text.unique text'
      exact absurd cut uncut
    | invalid text' _ longest' =>
      obtain rfl := text.unique text'
      rw [longest.unique longest']

end Longest

section Chunk

/-- What reading the bytes that are owed comes to: all of them are there, or the end comes first, or a
    byte out of bounds does. -/
inductive TailRead (seen owed : Nat) (lo hi : UInt8) : List UInt8 → Chunk → Prop where
  | complete {front back : List UInt8} : Fits owed lo hi front → front.length = owed →
    TailRead seen owed lo hi (front ++ back) (.complete (seen + owed))
  | cut {rest : List UInt8} : Fits owed lo hi rest → rest.length < owed →
    TailRead seen owed lo hi rest .cut
  | broken {front back : List UInt8} {b : UInt8} : Fits owed lo hi front → front.length < owed →
    ¬Fits owed lo hi (front ++ [b]) →
    TailRead seen owed lo hi (front ++ b :: back) (.broken (seen + front.length))

theorem TailRead.cons {chunk : Chunk} (bounds : lo.toNat ≤ b.toNat ∧ b.toNat ≤ hi.toNat)
    (h : TailRead (seen + 1) owed 0x80 0xBF rest chunk) :
    TailRead seen (owed + 1) lo hi (b :: rest) chunk := by
  cases h with
  | @complete front back fits length =>
    rw [Nat.add_right_comm seen 1 owed]
    show TailRead seen (owed + 1) lo hi ((b :: front) ++ back) (.complete (seen + (owed + 1)))
    exact .complete (fits_cons_iff.mpr ⟨bounds, fits⟩) (by simp [length])
  | cut fits short => exact .cut (fits_cons_iff.mpr ⟨bounds, fits⟩) (Nat.succ_lt_succ short)
  | @broken front back next fits short unfit =>
    rw [Nat.add_right_comm seen 1 front.length]
    show TailRead seen (owed + 1) lo hi ((b :: front) ++ next :: back)
      (.broken (seen + (b :: front).length))
    exact .broken (fits_cons_iff.mpr ⟨bounds, fits⟩) (Nat.succ_lt_succ short) fun h =>
      unfit (fits_cons_iff.mp h).2

theorem tailRead_tail (seen owed : Nat) (lo hi : UInt8) (rest : List UInt8) :
    TailRead seen owed lo hi rest (tail seen owed lo hi rest) := by
  induction owed generalizing seen lo hi rest with
  | zero =>
    show TailRead seen 0 lo hi ([] ++ rest) (.complete (seen + 0))
    exact .complete .nil rfl
  | succ owed ih =>
    cases rest with
    | nil => exact .cut .nil (Nat.succ_pos owed)
    | cons b rest =>
      by_cases bounds : lo ≤ b ∧ b ≤ hi
      · have next : tail seen (owed + 1) lo hi (b :: rest) = tail (seen + 1) owed 0x80 0xBF rest := by
          simp [tail, bounds]
        rw [next]
        exact .cons bounds (ih (seen + 1) 0x80 0xBF rest)
      · have broken : tail seen (owed + 1) lo hi (b :: rest) = .broken seen := by
          rw [tail, if_neg (by simpa using bounds)]
        rw [broken]
        show TailRead seen (owed + 1) lo hi ([] ++ b :: rest) (.broken (seen + 0))
        exact .broken .nil (Nat.succ_pos owed) fun fits => bounds (fits_cons_iff.mp fits).1

theorem chunk_eq (b : UInt8) (rest : List UInt8) : chunk b rest =
    match owes? b with
    | none => .broken 1
    | some (owed, lo, hi) => tail 1 owed lo hi rest := by
  rw [chunk, owes?]
  split
  · rfl
  · rfl

/-- What stands at the beginning of bytes. -/
inductive Stands : List UInt8 → Chunk → Prop where
  | complete (c : Char) (back : List UInt8) :
    Stands (String.utf8EncodeChar c ++ back) (.complete (String.utf8EncodeChar c).length)
  | cut {bs : List UInt8} : CutOff bs → Stands bs .cut
  | broken {bs : List UInt8} {n : Nat} : (∀ c, ¬String.utf8EncodeChar c <+: bs) → ¬CutOff bs →
    Longest Begins bs n → Stands bs (.broken (max 1 n))

theorem begins_of_cutOff (h : CutOff bs) : Begins bs := by
  obtain ⟨c, begins, -⟩ := h
  exact ⟨c, begins⟩

theorem Begins.shorter (h : Begins bs) (within : front <+: bs) : Begins front := by
  obtain ⟨c, begins⟩ := h
  exact ⟨c, within.trans begins⟩

/-- Bytes that cannot go on after some first ones: no character stands there, and the end does not cut
    one off. -/
theorem stands_broken (begins : Begins front) (ends : ¬Begins (front ++ [b]))
    (part : ∀ c, ¬String.utf8EncodeChar c <+: front) :
    Stands (front ++ b :: back) (.broken (max 1 front.length)) := by
  have next : front ++ [b] <+: front ++ b :: back := ⟨back, by simp⟩
  have short {other : List UInt8} (within : other <+: front ++ b :: back) (has : Begins other) :
      other <+: front := by
    rcases List.prefix_or_prefix_of_prefix within next with le | le
    · rcases List.prefix_concat_iff.mp le with rfl | le
      · exact absurd has ends
      · exact le
    · exact absurd (has.shorter le) ends
  refine .broken (fun c within => part c (short within ⟨c, List.prefix_refl _⟩)) ?_
    (longest_of_append begins fun other within has => (short within has).length_le)
  exact fun cut => ends ((begins_of_cutOff cut).shorter next)

/-- What reading the bytes after a first byte comes to, stands there with it. -/
theorem stands_of_tailRead {chunk : Chunk} (lead : owes? b = some (owed, lo, hi))
    (read : TailRead 1 owed lo hi rest chunk) : Stands (b :: rest) chunk := by
  cases read with
  | @complete front back fits length =>
    obtain ⟨c, hc⟩ := exists_utf8EncodeChar_iff.mpr ((forms_iff_of_owes lead).mpr ⟨fits, length⟩)
    have whole := Stands.complete c back
    rwa [hc, List.length_cons, length, Nat.add_comm owed 1] at whole
  | cut fits short =>
    obtain ⟨c, begins⟩ := (begins_iff_of_owes lead).mpr fits
    refine .cut ⟨c, begins, fun whole => ?_⟩
    have forms := exists_utf8EncodeChar_iff.mp ⟨c, whole.symm⟩
    exact absurd ((forms_iff_of_owes lead).mp forms).2 (Nat.ne_of_lt short)
  | @broken front back next fits short unfit =>
    have begins : Begins (b :: front) := (begins_iff_of_owes lead).mpr fits
    have ends : ¬Begins (b :: front ++ [next]) := fun begins =>
      unfit ((begins_iff_of_owes lead).mp begins)
    have part (c : Char) : ¬String.utf8EncodeChar c <+: b :: front := by
      intro within
      obtain ⟨b', bs, hc, forms⟩ := forms_utf8EncodeChar c
      rw [hc, List.cons_prefix_cons] at within
      obtain ⟨rfl, within⟩ := within
      have length := ((forms_iff_of_owes lead).mp forms).2
      exact absurd within.length_le (by omega)
    have broken : Stands ((b :: front) ++ next :: back) (.broken (max 1 (b :: front).length)) :=
      stands_broken begins ends part
    rwa [List.length_cons, Nat.add_comm front.length 1, Nat.max_eq_right (by omega)] at broken

theorem stands_chunk (b : UInt8) (rest : List UInt8) : Stands (b :: rest) (chunk b rest) := by
  rw [chunk_eq]
  cases lead : owes? b with
  | none =>
    have ends : ¬Begins [b] := by
      intro h
      obtain ⟨owed, lo, hi, found, -⟩ := begins_cons_iff.mp h
      rw [lead] at found
      cases found
    have part (c : Char) : ¬String.utf8EncodeChar c <+: [] := by
      rw [List.prefix_nil]
      exact String.utf8EncodeChar_ne_nil
    show Stands ([] ++ b :: rest) (.broken (max 1 0))
    exact stands_broken begins_nil ends part
  | some bounds =>
    obtain ⟨owed, lo, hi⟩ := bounds
    exact stands_of_tailRead lead (tailRead_tail 1 owed lo hi rest)

end Chunk

section Fault

/-- What a fault says of the bytes from the place of the fault on. -/
inductive DecodeFault.At (start : Nat) (back : List UInt8) : DecodeFault → Prop where
  | incomplete : CutOff back → At start back (.incomplete start)
  | invalid {n : Nat} : ¬CutOff back → Longest Begins back n → At start back (.invalid (max 1 n) start)

/-- The bytes of characters, and after them bytes at which no character stands: none, or a fault. -/
inductive Searched (index : Nat) : List UInt8 → Option DecodeFault → Prop where
  | text (cs : List Char) : Searched index (cs.flatMap String.utf8EncodeChar) none
  | fault (cs : List Char) {back : List UInt8} {fault : DecodeFault} :
    (∀ c, ¬String.utf8EncodeChar c <+: back) →
    fault.At (index + (cs.flatMap String.utf8EncodeChar).length) back →
    Searched index (cs.flatMap String.utf8EncodeChar ++ back) (some fault)

theorem Searched.cons {found : Option DecodeFault} (c : Char)
    (h : Searched (start + (String.utf8EncodeChar c).length) bs found) :
    Searched start (String.utf8EncodeChar c ++ bs) found := by
  cases h with
  | text cs => exact .text (c :: cs)
  | @fault cs back fault part place =>
    rw [← List.append_assoc]
    refine .fault (c :: cs) part ?_
    rwa [List.flatMap_cons, List.length_append, ← Nat.add_assoc]

theorem faultFrom_append (index : Nat) (front back : List UInt8) :
    faultFrom index front.length (front ++ back) = faultFrom (index + front.length) 0 back := by
  induction front generalizing index with
  | nil => rfl
  | cons b front ih =>
    rw [List.length_cons, List.cons_append, faultFrom, ih, Nat.add_right_comm, Nat.add_assoc]

theorem searched_faultFrom (index : Nat) (bytes : List UInt8) :
    Searched index bytes (faultFrom index 0 bytes) := by
  induction length : bytes.length using Nat.strongRecOn generalizing index bytes with
  | ind size ih =>
  cases bytes with
  | nil => exact .text []
  | cons b rest =>
    have stands := stands_chunk b rest
    rw [faultFrom]
    generalize chunk b rest = chunk at stands ⊢
    generalize whole : b :: rest = bytes at stands length ⊢
    cases stands with
    | complete c back =>
      obtain ⟨b', bs, hc, -⟩ := forms_utf8EncodeChar c
      rw [hc, List.cons_append] at whole
      obtain ⟨rfl, rfl⟩ := List.cons.inj whole
      have onward : faultFrom (index + 1) (bs.length + 1 - 1) (bs ++ back) =
          faultFrom (index + (bs.length + 1)) 0 back := by
        rw [Nat.add_sub_cancel, faultFrom_append, Nat.add_assoc, Nat.add_comm 1]
      have shorter : back.length < size := by
        rw [← length, hc, List.length_append, List.length_cons]
        omega
      refine .cons c ?_
      rw [hc, List.length_cons]
      show Searched _ back (faultFrom (index + 1) (bs.length + 1 - 1) (bs ++ back))
      rw [onward]
      exact ih back.length shorter _ back rfl
    | cut cut =>
      refine .fault [] (fun c within => ?_) (.incomplete cut)
      obtain ⟨d, begins, part⟩ := cut
      obtain rfl := eq_of_encodings (within.trans begins)
      exact part (begins.eq_of_length_le within.length_le)
    | broken part uncut longest => exact .fault [] part (.invalid uncut longest)

/-- Before bytes at which no character stands, no text is longer. -/
theorem length_le_of_begins (part : ∀ c, ¬String.utf8EncodeChar c <+: back)
    (h : ds.flatMap String.utf8EncodeChar <+: cs.flatMap String.utf8EncodeChar ++ back) :
    (ds.flatMap String.utf8EncodeChar).length ≤ (cs.flatMap String.utf8EncodeChar).length := by
  induction cs generalizing ds with
  | nil =>
    cases ds with
    | nil => exact Nat.le_refl _
    | cons d ds => exact absurd ((List.prefix_append _ _).trans h) (part d)
  | cons c cs ih =>
    cases ds with
    | nil => exact Nat.zero_le _
    | cons d ds =>
      rw [List.flatMap_cons, List.flatMap_cons, List.append_assoc] at h
      have first := (List.prefix_append (String.utf8EncodeChar d) _).trans h
      obtain rfl : d = c := by
        rcases List.prefix_or_prefix_of_prefix first (List.prefix_append _ _) with le | le
        · exact eq_of_encodings le
        · exact (eq_of_encodings le).symm
      rw [List.prefix_append_right_inj] at h
      rw [List.flatMap_cons, List.flatMap_cons, List.length_append, List.length_append]
      exact Nat.add_le_add_left (ih h) _

end Fault

section Decode

variable {bytes : ByteArray} {text : String}

theorem toList_loop (bytes : ByteArray) (i : Nat) (r : List UInt8) :
    ByteArray.toList.loop bytes i r = r.reverse ++ bytes.data.toList.drop i := by
  fun_induction ByteArray.toList.loop bytes i r with
  | case1 i r h ih =>
    have here : i < bytes.data.toList.length := h
    have byte : bytes.get! i = bytes.data.toList[i] := getElem!_pos bytes.data i h
    rw [ih, List.drop_eq_getElem_cons here, List.reverse_cons, List.append_assoc, byte]
    rfl
  | case2 i r h =>
    have past : bytes.data.toList.length ≤ i := Nat.not_lt.mp h
    rw [List.drop_eq_nil_of_le past, List.append_nil]

theorem toList_toUTF8 (text : String) :
    text.toUTF8.toList = text.toList.flatMap String.utf8EncodeChar := by
  rw [ByteArray.toList, toList_loop, String.toUTF8_eq_toByteArray, ← String.utf8Encode_toList]
  exact List.toList_data_toByteArray

theorem toList_inj {bytes bytes' : ByteArray} : bytes.toList = bytes'.toList ↔ bytes = bytes' := by
  constructor
  · intro h
    rw [ByteArray.toList, ByteArray.toList, toList_loop, toList_loop] at h
    exact ByteArray.ext (Array.toList_inj.mp h)
  · intro h
    rw [h]

theorem isText_iff : IsText bs ↔ ∃ cs : List Char, cs.flatMap String.utf8EncodeChar = bs := by
  constructor
  · rintro ⟨text, rfl⟩
    exact ⟨text.toList, (toList_toUTF8 text).symm⟩
  · rintro ⟨cs, rfl⟩
    exact ⟨.ofList cs, by rw [toList_toUTF8, String.toList_ofList]⟩

theorem decode_eq_ok_iff : decode bytes = .ok text ↔ bytes = text.toUTF8 := by
  simp only [decode, String.fromUTF8?, String.toUTF8_eq_toByteArray]
  constructor
  · intro h
    split at h
    · rename_i found
      split at found
      · cases found
        cases h
        rfl
      · cases found
    · cases h
  · intro h
    subst h
    rw [dif_pos text.isValidUTF8]
    rfl

/-- The fault of bytes that are no text. -/
theorem describes_of_decode (h : decode bytes = .error fault) : fault.Describes bytes.toList := by
  have untext : ¬IsText bytes.toList := by
    rintro ⟨text, eq⟩
    rw [decode_eq_ok_iff.mpr (toList_inj.mp eq).symm] at h
    cases h
  have found : (fault? bytes).getD (.invalid 1 0) = fault := by
    rw [decode] at h
    split at h
    · cases h
    · exact Except.error.inj h
  have searched := searched_faultFrom 0 bytes.toList
  rw [fault?] at found
  generalize faultFrom 0 0 bytes.toList = result at found searched
  generalize bytes.toList = bs at untext searched ⊢
  cases searched with
  | text cs => exact absurd (isText_iff.mpr ⟨cs, rfl⟩) untext
  | @fault cs back fault part place =>
    cases found
    have text : Longest IsText (cs.flatMap String.utf8EncodeChar ++ back)
        (cs.flatMap String.utf8EncodeChar).length := by
      refine longest_of_append (isText_iff.mpr ⟨cs, rfl⟩) fun other within has => ?_
      obtain ⟨ds, rfl⟩ := isText_iff.mp has
      exact length_le_of_begins part within
    rw [Nat.zero_add] at place
    cases place with
    | incomplete cut => exact .incomplete text (by rwa [List.drop_left])
    | invalid uncut longest =>
      exact .invalid text (by rwa [List.drop_left]) (by rwa [List.drop_left])

theorem decode_eq_error_iff : decode bytes = .error fault ↔
    (∀ text : String, text.toUTF8 ≠ bytes) ∧ fault.Describes bytes.toList := by
  constructor
  · intro h
    refine ⟨fun text eq => ?_, describes_of_decode h⟩
    rw [decode_eq_ok_iff.mpr eq.symm] at h
    cases h
  · rintro ⟨undecodable, describes⟩
    cases h : decode bytes with
    | ok text => exact absurd (decode_eq_ok_iff.mp h).symm (undecodable text)
    | error fault' => rw [(describes_of_decode h).unique describes]

end Decode

end LintRepair.Text.Utf8
