/-! # Blanks, comments and line ends

What may stand between the parts of a settings document without a meaning of its own. A line ends
with a line feed, alone or after a carriage return. No other control character but the tab may stand
anywhere.
-/

namespace LintRepair.Toml

def isSpace (c : Char) : Bool := c == ' ' || c == '\t'

/-- Whether a character may stand neither in a comment nor in a text on one line. -/
def isControl (c : Char) : Bool := (c < ' ' && c != '\t') || c == '\x7f'

/-- Drops spaces and tabs. -/
def skipSpaces (cs : List Char) : List Char := cs.dropWhile isSpace

/-- Drops a line end. -/
def lineFeed? : List Char → Option (List Char)
  | '\n' :: rest => some rest
  | '\r' :: '\n' :: rest => some rest
  | _ => none

/-- Drops what may follow on a line: spaces, a comment, and the end of the line or of the text. -/
def lineEnd? (cs : List Char) : Option (List Char) :=
  let cs := match skipSpaces cs with
    | '#' :: rest => rest.dropWhile (!isControl ·)
    | rest => rest
  if cs.isEmpty then some [] else lineFeed? cs

/-- Drops spaces, line ends and comments. -/
def skipBlank (inComment : Bool) : List Char → List Char
  | [] => []
  | c :: rest =>
    if c == '\n' then skipBlank false rest
    else if c == '\r' && rest.head? == some '\n' then skipBlank false rest
    else if inComment then (if isControl c then c :: rest else skipBlank true rest)
    else if isSpace c then skipBlank false rest
    else if c == '#' then skipBlank true rest
    else c :: rest

end LintRepair.Toml
