import LintRepair.Fault
import LintRepair.Replacement.Substitution

/-! # Rules

A rule names a pattern and what to put in place of its matches. A pipeline is a list of compiled
rules; each runs once over the whole document, on what the rule before it left.
-/

namespace LintRepair

open LintRepair.Files LintRepair.Pattern LintRepair.Replacement

/-- A rule as written. -/
structure Rule where
  id : String
  pattern : String
  replacement : String
  deriving DecidableEq, Repr, Inhabited

/-- A compiled rule, with the settings file that it comes from unless it is built in. -/
structure CompiledRule where
  rule : Rule
  regex : Regex
  source : Option FilePath

/-- Documents are worked on as arrays of characters. -/
abbrev Document := Array Char

/-- The document of a text. -/
def Document.ofString (text : String) : Document := text.toList.toArray

/-- The text of a document. -/
def Document.toString (d : Document) : String := String.ofList d.toList

namespace Rule

/-- Compiles the pattern of a rule. -/
def compile (rule : Rule) (source : Option FilePath) : Except Fault CompiledRule :=
  match Regex.compile rule.pattern with
  | .ok regex => .ok ⟨rule, regex, source⟩
  | .error cause => .error (.invalidPattern rule.id rule.pattern cause)

/-- Compiles rules in order, up to the first that has no compiled form. -/
def compileAll (rules : List Rule) : Except Fault (List CompiledRule) :=
  rules.mapM fun rule => rule.compile none

end Rule

namespace CompiledRule

def id (r : CompiledRule) : String := r.rule.id

/-- Replaces every match in a document. There is no answer when nothing matched. -/
def substitute? (r : CompiledRule) (d : Document) : Option Document :=
  replaceAll? r.regex (parts r.rule.replacement.toList) d

/-- The document after the rule. -/
def apply (r : CompiledRule) (d : Document) : Document := (r.substitute? d).getD d

end CompiledRule

/-- Compiled rules in the order in which they run. -/
abbrev Pipeline := List CompiledRule

namespace Pipeline

/-- The document after all rules. -/
def run (p : Pipeline) (d : Document) : Document := p.foldl (fun d r => r.apply d) d

/-- The rules that matched, each with the document that it left. -/
def trace : Pipeline → Document → List (String × Document)
  | [], _ => []
  | r :: rules, d =>
    match r.substitute? d with
    | some d => (r.id, d) :: trace rules d
    | none => trace rules d

/-- The text after all rules. -/
def apply (p : Pipeline) (text : String) : String :=
  Document.toString (p.run (Document.ofString text))

end Pipeline

end LintRepair
