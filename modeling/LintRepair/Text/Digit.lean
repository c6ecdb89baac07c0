/-! # Digits

The numbers that digits stand for, and the characters that have a number.
-/

namespace LintRepair.Text

def isHexDigit (c : Char) : Bool :=
  c.isDigit || ('a' ≤ c && c ≤ 'f') || ('A' ≤ c && c ≤ 'F')

def hexDigitValue (c : Char) : Nat :=
  if c.isDigit then c.toNat - '0'.toNat
  else if 'a' ≤ c then c.toNat - 'a'.toNat + 10
  else c.toNat - 'A'.toNat + 10

/-- The value of digits to a base of at most sixteen. -/
def valueToBase (base : Nat) (digits : List Char) : Nat :=
  digits.foldl (fun n c => n * base + hexDigitValue c) 0

/-- The value of decimal digits. -/
def decimalValue (digits : List Char) : Nat := valueToBase 10 digits

/-- The value of hexadecimal digits. -/
def hexValue (digits : List Char) : Nat := valueToBase 16 digits

/-- The character with a code point, if there is one. -/
def scalar? (n : Nat) : Option Char :=
  if h : n.isValidChar then some (Char.ofNatAux n h) else none

end LintRepair.Text
