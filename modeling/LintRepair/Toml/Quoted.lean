import LintRepair.Text.Digit
import LintRepair.Toml.Blank

/-! # Quoted texts

A text stands between two marks on one line, or between two threefold marks on any number of lines.
In double quotes a backslash escapes; single quotes take every character as it is. `quote` writes any
text in double quotes on one line.
-/

namespace LintRepair.Toml

open LintRepair.Text

/-- A way to quote: the mark at both ends, and whether a backslash escapes. -/
structure Quoting where
  mark : Char
  escapes : Bool
  deriving DecidableEq, Repr

namespace Quoting

def basic : Quoting := ⟨'"', true⟩

def literal : Quoting := ⟨'\'', false⟩

/-- The way to quote that starts with a mark. -/
def ofMark? (c : Char) : Option Quoting :=
  if c == basic.mark then some basic else if c == literal.mark then some literal else none

end Quoting

/-- The characters that one letter after a backslash stands for. -/
def shortEscape? : Char → Option Char
  | 'b' => some '\x08'
  | 't' => some '\t'
  | 'n' => some '\n'
  | 'f' => some '\x0c'
  | 'r' => some '\r'
  | 'e' => some '\x1b'
  | '"' => some '"'
  | '\\' => some '\\'
  | _ => none

/-- The number of hexadecimal digits that have to follow a letter. -/
def escapeWidth? : Char → Option Nat
  | 'x' => some 2
  | 'u' => some 4
  | 'U' => some 8
  | _ => none

/-- The character that stands after a backslash, and the number of characters that it takes. -/
def escaped? : List Char → Option (Char × Nat)
  | [] => none
  | c :: rest =>
    match escapeWidth? c with
    | some width =>
      let digits := rest.take width
      if digits.length = width && digits.all isHexDigit then
        (scalar? (hexValue digits)).map fun c => (c, width + 1)
      else none
    | none => (shortEscape? c).map fun c => (c, 1)

/-- Drops spaces and line ends. -/
def skipLines : List Char → List Char
  | [] => []
  | c :: rest =>
    if isSpace c || c == '\n' then skipLines rest
    else if c == '\r' && rest.head? == some '\n' then skipLines rest
    else c :: rest

/-- The number of characters after a backslash that ends a line: the end of the line, with spaces
    before it, and all spaces and line ends that follow. -/
def joinedLines? (cs : List Char) : Option Nat :=
  match lineFeed? (skipSpaces cs) with
  | some rest => some (cs.length - (skipLines rest).length)
  | none => none

/-- Puts a character in front of a text that was read. -/
def withChar (c : Char) : Option (List Char × List Char) → Option (List Char × List Char)
  | some (text, rest) => some (c :: text, rest)
  | none => none

/-- The text up to the mark, and what stands after it. The number counts characters that belong to
    what was read before. -/
def oneLine? (q : Quoting) : Nat → List Char → Option (List Char × List Char)
  | _, [] => none
  | skip + 1, _ :: rest => oneLine? q skip rest
  | 0, c :: rest =>
    if c == q.mark then some ([], rest)
    else if q.escapes && c == '\\' then
      match escaped? rest with
      | some (c, taken) => withChar c (oneLine? q taken rest)
      | none => none
    else if isControl c then none
    else withChar c (oneLine? q 0 rest)

/-- After a threefold mark, up to two more marks still belong to the text. -/
def lastMarks (q : Quoting) : List Char → List Char × List Char
  | c :: d :: rest =>
    if c == q.mark && d == q.mark then ([c, d], rest)
    else if c == q.mark then ([c], d :: rest)
    else ([], c :: d :: rest)
  | [c] => if c == q.mark then ([c], []) else ([], [c])
  | [] => ([], [])

/-- The text up to the threefold mark, and what stands after it. The number counts characters that
    belong to what was read before. -/
def manyLines? (q : Quoting) : Nat → List Char → Option (List Char × List Char)
  | _, [] => none
  | skip + 1, _ :: rest => manyLines? q skip rest
  | 0, c :: rest =>
    if c == q.mark && rest.take 2 == [q.mark, q.mark] then some (lastMarks q (rest.drop 2))
    else if q.escapes && c == '\\' then
      match joinedLines? rest with
      | some taken => manyLines? q taken rest
      | none =>
        match escaped? rest with
        | some (c, taken) => withChar c (manyLines? q taken rest)
        | none => none
    else if c == '\n' || (c == '\r' && rest.head? == some '\n') then
      withChar c (manyLines? q 0 rest)
    else if isControl c then none
    else withChar c (manyLines? q 0 rest)

/-- The text after an opening mark, and what stands after the closing one. A line end right after a
    threefold mark does not count. -/
def afterMark? (q : Quoting) (cs : List Char) : Option (List Char × List Char) :=
  if cs.take 2 == [q.mark, q.mark] then
    let body := cs.drop 2
    manyLines? q 0 ((lineFeed? body).getD body)
  else oneLine? q 0 cs

/-- A hexadecimal digit below sixteen. -/
def hexDigit (n : Nat) : Char :=
  if n < 10 then Char.ofNat ('0'.toNat + n) else Char.ofNat ('A'.toNat + (n - 10))

/-- Writes a character in double quotes. -/
def quoteChar (c : Char) : List Char :=
  if c == '"' || c == '\\' then ['\\', c]
  else if c < ' ' || c == '\x7f' then
    ['\\', 'u', '0', '0', hexDigit (c.toNat / 16), hexDigit (c.toNat % 16)]
  else [c]

/-- Writes a text in double quotes on one line. -/
def quote (text : List Char) : List Char := '"' :: (text.flatMap quoteChar ++ ['"'])

end LintRepair.Toml
