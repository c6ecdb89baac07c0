import LintRepair.Rule.Basic

/-! # The built-in rules

Five fixed rules, and between the second and the third one rule for each nullable identifier, which
turns the negation of the identifier into a comparison with null.
-/

namespace LintRepair.Catalog

/-- The identifiers whose negation becomes a comparison with null unless the settings list others. -/
def defaultIdentifiers : List String :=
  ["text", "result", "response", "jsonData", "instance", "options"]

/-- The name of the family of rules for identifiers. -/
def familyId : String := "nullable-check"

/-- The fixed rules before those for identifiers. Both put the lookup by name. -/
def leading : List Rule :=
  [⟨"nullish-name", "(\\w+)\\[name\\] \\|\\|", "$\x7b1\x7d[name] ??"⟩,
   ⟨"nullish-value", "(\\w+)\\[value\\] \\|\\|", "$\x7b1\x7d[name] ??"⟩]

/-- The fixed rules after those for identifiers. -/
def trailing : List Rule :=
  [⟨"empty-object-condition", "if\\s*\\(\\s*\\\x7b\\s*\\\x7d\\s*\\)", "if (false)"⟩,
   ⟨"console-log-to-warn", "console\\.log\\(", "console.warn("⟩,
   ⟨"unused-prefix", "\\bunused(\\w+)\\b", "_$\x7b1\x7d"⟩]

/-- Writes a text as a pattern that matches it and nothing else. -/
def escapePattern : List Char → List Char
  | [] => []
  | c :: rest =>
    if Pattern.isMeta c then '\\' :: c :: escapePattern rest else c :: escapePattern rest

/-- The rule for an identifier, which is matched and put back literally. -/
def nullCheck (identifier : String) : Rule where
  id := familyId ++ ":" ++ identifier
  pattern := "!" ++ String.ofList (escapePattern identifier.toList) ++ "\\b"
  replacement := String.ofList (Replacement.escape identifier.toList) ++ " == null"

/-- All built-in rules for the given identifiers, in the order in which they run. -/
def rules (identifiers : List String) : List Rule :=
  leading ++ identifiers.map nullCheck ++ trailing

/-- The built-in rules for the default identifiers. -/
def defaultRules : List Rule := rules defaultIdentifiers

/-- Whether an id begins with the name of the family and a colon. -/
def isFamilyMember (id : String) : Bool := (familyId ++ ":").toList.isPrefixOf id.toList

/-- Whether an id is kept for built-in rules: that of a fixed rule, of the family or of any rule of
    the family. -/
def isReserved (id : String) : Bool :=
  id == familyId || isFamilyMember id || (leading ++ trailing).any (·.id == id)

/-- Whether a disabled entry selects the rule with an id: the rule itself or its family. -/
def selects (entry id : String) : Bool :=
  entry == id || (entry == familyId && isFamilyMember id)

/-- The pipeline of the built-in rules for the default identifiers. -/
def pipeline : Except Fault Pipeline := Rule.compileAll defaultRules

end LintRepair.Catalog
