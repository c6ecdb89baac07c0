import LintRepair.Text.Digit
import LintRepair.Toml.Value

/-! # Values without quotes or brackets

Truth values, numbers, dates and times. Such a value is the longest run of characters that separate
nothing, and it has to be one of these as a whole.
-/

namespace LintRepair.Toml

open LintRepair.Text

/-! Numbers -/

/-- Digits without the underscores between them. An underscore has a digit on both sides; the first
    argument says whether a digit has to come next. -/
def ungroup? (isDigit : Char → Bool) : Bool → List Char → Option (List Char)
  | owed, [] => if owed then none else some []
  | owed, c :: rest =>
    if c == '_' then (if owed then none else ungroup? isDigit true rest)
    else if isDigit c then (ungroup? isDigit false rest).map (c :: ·)
    else none

/-- Digits to a base. -/
def digits? (base : Nat) (cs : List Char) : Option (List Char) :=
  ungroup? (fun c => isHexDigit c && hexDigitValue c < base) true cs

/-- Decimal digits, the first of which is a zero only if it is alone. -/
def wholeDigits? (cs : List Char) : Option (List Char) :=
  match digits? 10 cs with
  | some ds => if ds.length > 1 && ds.head? == some '0' then none else some ds
  | none => none

/-- Cuts off a sign. -/
def sign : List Char → Option Bool × List Char
  | '+' :: rest => (some false, rest)
  | '-' :: rest => (some true, rest)
  | rest => (none, rest)

def signed (negative : Bool) (n : Nat) : Int := if negative then -n else n

/-- Decimal digits with an optional sign, for exponents. -/
def exponent? (cs : List Char) : Option Int :=
  let (negative, ds) := sign cs
  (digits? 10 ds).map fun ds => signed (negative.getD false) (decimalValue ds)

/-- A whole part and what may follow it: a point with digits, and an exponent. -/
def decimal? (negative : Bool) (cs : List Char) : Option Number :=
  let (mantissa, tail) := cs.span fun c => c != 'e' && c != 'E'
  let (whole, point) := mantissa.span (· != '.')
  let exponent := match tail with
    | [] => some 0
    | _ :: cs => exponent? cs
  let places := match point with
    | [] => some []
    | _ :: cs => digits? 10 cs
  match wholeDigits? whole, places, exponent with
  | some ds, some places, some e =>
    if point.isEmpty && tail.isEmpty then some (.integer (signed negative (decimalValue ds)))
    else some (.decimal negative (decimalValue (ds ++ places)) (e - places.length))
  | _, _, _ => none

/-- A number. Other bases than ten take no sign. -/
def number? (cs : List Char) : Option Number :=
  match sign cs with
  | (negative, ['i', 'n', 'f']) => some (.infinite (negative.getD false))
  | (_, ['n', 'a', 'n']) => some .notANumber
  | (none, '0' :: 'x' :: cs) => (digits? 16 cs).map fun ds => .integer (valueToBase 16 ds)
  | (none, '0' :: 'o' :: cs) => (digits? 8 cs).map fun ds => .integer (valueToBase 8 ds)
  | (none, '0' :: 'b' :: cs) => (digits? 2 cs).map fun ds => .integer (valueToBase 2 ds)
  | (negative, cs) => decimal? (negative.getD false) cs

/-! Dates and times -/

/-- A number of so many decimal digits. -/
def field? (width : Nat) (cs : List Char) : Option (Nat × List Char) :=
  let ds := cs.take width
  if ds.length = width && ds.all Char.isDigit then some (decimalValue ds, cs.drop width) else none

/-- Drops a character that has to come next. -/
def expect? (c : Char) : List Char → Option (List Char)
  | d :: rest => if d == c then some rest else none
  | [] => none

def isLeapYear (year : Nat) : Bool := (year % 4 == 0 && year % 100 != 0) || year % 400 == 0

def daysInMonth (year month : Nat) : Nat :=
  if month == 2 then (if isLeapYear year then 29 else 28)
  else if month == 4 || month == 6 || month == 9 || month == 11 then 30
  else 31

/-- A day of the calendar, and what follows it. -/
def date? (cs : List Char) : Option (List Char) := do
  let (year, cs) ← field? 4 cs
  let cs ← expect? '-' cs
  let (month, cs) ← field? 2 cs
  let cs ← expect? '-' cs
  let (day, cs) ← field? 2 cs
  if 1 ≤ month && month ≤ 12 && 1 ≤ day && day ≤ daysInMonth year month then some cs else none

/-- Digits of a part of a second, if a point comes next, and what follows them. -/
def secondPart? : List Char → Option (List Char)
  | '.' :: cs => if (cs.head?.any Char.isDigit) then some (cs.dropWhile Char.isDigit) else none
  | cs => some cs

/-- Seconds, if a colon comes next, and what follows them. A minute may have a leap second. -/
def seconds? : List Char → Option (List Char)
  | ':' :: cs => do
    let (second, cs) ← field? 2 cs
    if second ≤ 60 then secondPart? cs else none
  | cs => some cs

/-- A time of the day, and what follows it. The day may be said to end at hour 24. -/
def time? (cs : List Char) : Option (List Char) := do
  let (hour, cs) ← field? 2 cs
  let cs ← expect? ':' cs
  let (minute, cs) ← field? 2 cs
  if hour ≤ 24 && minute ≤ 59 then seconds? cs else none

/-- Whether a text is nothing or a distance from universal time of at most a day. -/
def isOffset : List Char → Bool
  | [] => true
  | ['Z'] => true
  | ['z'] => true
  | c :: cs =>
    (c == '+' || c == '-') &&
      match field? 2 cs with
      | some (hour, ':' :: cs) =>
        match field? 2 cs with
        | some (minute, []) => minute ≤ 59 && hour * 60 + minute ≤ 24 * 60
        | _ => false
      | _ => false

/-- Whether a character may stand between a date and a time. -/
def joinsTime (c : Char) : Bool := c == 'T' || c == 't' || c == ' '

/-- Whether a text is a date, a time, or both with or without an offset. -/
def isDateTime (cs : List Char) : Bool :=
  match date? cs with
  | some [] => true
  | some (c :: cs) => joinsTime c && (time? cs).any isOffset
  | none => time? cs == some []

/-! All together -/

/-- Whether a character separates values from what is around them. -/
def isSeparator (c : Char) : Bool :=
  [' ', '\t', '\n', '\r', '#', '[', ']', '{', '}', ',', '='].contains c

/-- The longest run of characters that separate nothing, and what follows it. A time may follow a
    date after one space. -/
def word (cs : List Char) : List Char × List Char :=
  let (first, rest) := cs.span (!isSeparator ·)
  match rest with
  | ' ' :: c :: more =>
    if date? first == some [] && c.isDigit then
      let (second, rest) := (c :: more).span (!isSeparator ·)
      (first ++ ' ' :: second, rest)
    else (first, rest)
  | _ => (first, rest)

/-- The value of a word. -/
def scalar? (cs : List Char) : Option Value :=
  if cs == ['t', 'r', 'u', 'e'] then some (.bool true)
  else if cs == ['f', 'a', 'l', 's', 'e'] then some (.bool false)
  else match number? cs with
    | some n => some (.number n)
    | none => if isDateTime cs then some (.dateTime cs) else none

end LintRepair.Toml
