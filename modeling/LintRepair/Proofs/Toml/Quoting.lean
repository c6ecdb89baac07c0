import LintRepair.Toml.Reader

/-! # Quoted texts are read back

A text in double quotes is read character by character up to its closing mark, whatever follows it.
Each character is written as itself, behind a backslash, or by its number in hexadecimal digits.
-/

namespace LintRepair

theorem Text.scalar?_toNat (c : Char) : Text.scalar? c.toNat = some c := by
  have valid : c.toNat.isValidChar := c.valid
  unfold Text.scalar?
  rw [dif_pos valid]
  rfl

namespace Toml

open LintRepair.Text

variable {q : Quoting} {c : Char} {rest : List Char} {n : Nat}

theorem isHexDigit_hexDigit : ∀ n < 16, isHexDigit (hexDigit n) = true := by
  decide

theorem hexDigitValue_hexDigit : ∀ n < 16, hexDigitValue (hexDigit n) = n := by
  decide

/-- Two hexadecimal digits behind two zeros are the number that they were made from. -/
theorem hexValue_hexDigits (h : n < 256) :
    hexValue ['0', '0', hexDigit (n / 16), hexDigit (n % 16)] = n := by
  have zero : hexDigitValue '0' = 0 := by decide
  have high := hexDigitValue_hexDigit (n / 16) (by omega)
  have low := hexDigitValue_hexDigit (n % 16) (by omega)
  simp only [hexValue, valueToBase, List.foldl_cons, List.foldl_nil, zero, high, low]
  omega

/-- A character that is written by its number is read back. -/
theorem escaped?_number (h : c.toNat < 256) :
    escaped? ('u' :: '0' :: '0' :: hexDigit (c.toNat / 16) :: hexDigit (c.toNat % 16) :: rest) =
      some (c, 5) := by
  have zero : isHexDigit '0' = true := by decide
  have high := isHexDigit_hexDigit (c.toNat / 16) (by omega)
  have low := isHexDigit_hexDigit (c.toNat % 16) (by omega)
  have width : escapeWidth? 'u' = some 4 := rfl
  simp [escaped?, width, zero, high, low, hexValue_hexDigits h, Text.scalar?_toNat]

/-- Characters that belong to what was read before are passed over. -/
theorem oneLine?_skip (skipped : List Char) :
    oneLine? q skipped.length (skipped ++ rest) = oneLine? q 0 rest := by
  induction skipped with
  | nil => rfl
  | cons c skipped ih =>
    rw [List.length_cons, List.cons_append, oneLine?]
    exact ih

/-- What stands for a character behind a backslash is read as the character. -/
theorem oneLine?_escape (taken : List Char) (h : escaped? (taken ++ rest) = some (c, taken.length)) :
    oneLine? .basic 0 ('\\' :: (taken ++ rest)) = withChar c (oneLine? .basic 0 rest) := by
  rw [oneLine?, if_neg (by decide), if_pos (by decide), h]
  simp only [oneLine?_skip]

theorem oneLine?_quoteChar (c : Char) (rest : List Char) :
    oneLine? .basic 0 (quoteChar c ++ rest) = withChar c (oneLine? .basic 0 rest) := by
  unfold quoteChar
  split
  case isTrue mark =>
    apply oneLine?_escape [c]
    simp only [Bool.or_eq_true, beq_iff_eq] at mark
    cases mark with
    | inl same =>
      subst same
      rfl
    | inr same =>
      subst same
      rfl
  case isFalse plain =>
    split
    case isTrue control =>
      have small : c.toNat < 256 := by
        simp only [Bool.or_eq_true, decide_eq_true_eq, beq_iff_eq] at control
        cases control with
        | inl lower => exact Nat.lt_trans (UInt32.lt_iff_toNat_lt.mp lower) (by decide)
        | inr same =>
          subst same
          decide
      exact oneLine?_escape ['u', '0', '0', hexDigit (c.toNat / 16), hexDigit (c.toNat % 16)]
        (escaped?_number small)
    case isFalse visible =>
      simp only [Bool.or_eq_true, beq_iff_eq, not_or] at plain
      have allowed : isControl c = false := by
        simp only [Bool.or_eq_true, decide_eq_true_eq, beq_iff_eq, not_or] at visible
        simp [isControl, visible.1, visible.2]
      rw [List.cons_append, List.nil_append, oneLine?, if_neg, if_neg, if_neg]
      · simp [allowed]
      · simp [plain.2]
      · simpa [Quoting.basic] using plain.1

/-- A text in double quotes is read up to its closing mark. -/
theorem oneLine?_quoted (text rest : List Char) :
    oneLine? .basic 0 (text.flatMap quoteChar ++ '"' :: rest) = some (text, rest) := by
  induction text with
  | nil => rfl
  | cons c text ih =>
    rw [List.flatMap_cons, List.append_assoc, oneLine?_quoteChar, ih]
    rfl

/-- No character is written with a mark in front. -/
theorem head?_quoteChar (c : Char) (rest : List Char) : (quoteChar c ++ rest).head? ≠ some '"' := by
  unfold quoteChar
  split
  case isTrue => simp
  case isFalse plain =>
    split
    case isTrue => simp
    case isFalse => simp_all

/-- A quoted text opens no text of many lines, if no mark follows it. -/
theorem afterMark?_quoted {text : List Char} (h : rest.head? ≠ some '"') :
    afterMark? .basic (text.flatMap quoteChar ++ '"' :: rest) = some (text, rest) := by
  -- The opening mark would be threefold if the text started with a mark or, being empty, had one behind.
  have single : ¬ (text.flatMap quoteChar ++ '"' :: rest).take 2 = ['"', '"'] := by
    intro marks
    cases text with
    | nil => cases rest <;> simp_all
    | cons c text =>
      have head := head?_quoteChar c (text.flatMap quoteChar ++ '"' :: rest)
      rw [List.flatMap_cons, List.append_assoc] at marks
      apply head
      cases written : quoteChar c ++ (text.flatMap quoteChar ++ '"' :: rest) with
      | nil => simp [written] at marks
      | cons d tail =>
        rw [written, List.take_succ_cons] at marks
        rw [List.head?_cons, (List.cons.inj marks).1]
  rw [afterMark?, if_neg (by simpa [Quoting.basic] using single)]
  exact oneLine?_quoted text rest

/-- A quoted text is read back, if no mark follows it. -/
theorem plain?_quote {text : List Char} (h : rest.head? ≠ some '"') :
    plain? (quote text ++ rest) = some (.text text, rest) := by
  have mark : Quoting.ofMark? '"' = some .basic := rfl
  have whole : quote text ++ rest = '"' :: (text.flatMap quoteChar ++ '"' :: rest) := by
    simp [quote]
  simp [whole, plain?, mark, afterMark?_quoted h]

end Toml

end LintRepair
