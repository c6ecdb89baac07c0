/-! # Values of a settings document

What can stand behind a key. A table keeps its entries in the order in which they were first written.
-/

namespace LintRepair.Toml

/-- A number as written. A decimal is its digits times a power of ten. -/
inductive Number where
  | integer (n : Int)
  | decimal (negative : Bool) (digits : Nat) (exponent : Int)
  | infinite (negative : Bool)
  | notANumber
  deriving DecidableEq, Repr

/-- A value. Dates and times keep their spelling. -/
inductive Value where
  | text (chars : List Char)
  | bool (b : Bool)
  | number (n : Number)
  | dateTime (chars : List Char)
  | array (items : List Value)
  | table (entries : List (List Char × Value))
  deriving Repr

/-- A key and its value for each entry of a table. -/
abbrev Entries := List (List Char × Value)

namespace Number

/-- The least and the largest integer that have a signed or an unsigned word of 128 bits. -/
def leastInteger : Int := -Int.ofNat (Nat.pow 2 127)

def largestInteger : Int := Int.ofNat (Nat.pow 2 128 - 1)

/-- From this number on, the nearest double is infinite: it lies halfway between the largest finite
    double and the next power of two. -/
def doubleLimit : Nat := Nat.pow 2 1024 - Nat.pow 2 970

/-- A number with more digits before the point is above `doubleLimit`, and one with fewer digits
    than that is below it. -/
def doubleDigits : Int := 309

/-- Whether digits times a power of ten stay below `doubleLimit`. Only powers that can decide it are
    computed. -/
def isFinite (digits : Nat) (exponent : Int) : Bool :=
  let whole : Int := (Nat.toDigits 10 digits).length + exponent
  if digits = 0 || whole < doubleDigits then true
  else if whole > doubleDigits then false
  else match exponent with
    | .ofNat e => digits * Nat.pow 10 e < doubleLimit
    | .negSucc e => digits < doubleLimit * Nat.pow 10 (e + 1)

/-- Whether a machine number can hold the number or its nearest neighbour. -/
def isRepresentable : Number → Bool
  | .integer n => leastInteger ≤ n && n ≤ largestInteger
  | .decimal _ digits exponent => isFinite digits exponent
  | .infinite _ => true
  | .notANumber => true

end Number

namespace Value

mutual

/-- Whether every number in a value is representable. -/
def isRepresentable : Value → Bool
  | .number n => n.isRepresentable
  | .array items => isRepresentableList items
  | .table entries => isRepresentableEntries entries
  | .text _ => true
  | .bool _ => true
  | .dateTime _ => true

/-- Whether every number in a list of values is representable. -/
def isRepresentableList : List Value → Bool
  | [] => true
  | v :: vs => v.isRepresentable && isRepresentableList vs

/-- Whether every number in the entries of a table is representable. -/
def isRepresentableEntries : List (List Char × Value) → Bool
  | [] => true
  | (_, v) :: es => v.isRepresentable && isRepresentableEntries es

end

end Value

end LintRepair.Toml
