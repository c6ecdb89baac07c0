import LintRepair.Settings.Basic

/-! # Settings as text

The layout of a settings file. `render` writes any settings, and `template` is the file with which a
project starts: it has the default identifiers and explains what else can be set.
-/

namespace LintRepair.Settings

open LintRepair.Toml

/-- A name with its value on a line. -/
def line (name value : List Char) : List Char := name ++ " = ".toList ++ value ++ ['\n']

/-- Texts with a comma and a space between them. -/
def separated : List (List Char) → List Char
  | [] => []
  | [item] => item
  | item :: items => item ++ ", ".toList ++ separated items

/-- A list of quoted texts. -/
def quotedList (texts : List String) : List Char :=
  '[' :: separated (texts.map fun text => quote text.toList) ++ [']']

def boolText (b : Bool) : List Char := if b then "true".toList else "false".toList

/-- A rule as a table of its own. -/
def renderRule (rule : Rule) : List Char :=
  "\n[[rules]]\n".toList ++ line idName (quote rule.id.toList) ++
    line patternName (quote rule.pattern.toList) ++
    line replacementName (quote rule.replacement.toList)

/-- The text of a settings file. -/
def render (s : Settings) : String :=
  String.ofList <|
    line rootName (boolText s.root) ++
      (match s.nullableIdentifiers with
        | some identifiers => line identifiersName (quotedList identifiers)
        | none => []) ++
      line disabledName (quotedList s.disabledRules) ++ s.rules.flatMap renderRule

/-- The lines of the file with which a project starts. -/
def templateLines : List String :=
  ["# lintfix configuration",
   "# Stop looking for .lintfix.toml in parent directories.",
   "root = true",
   "",
   "# Identifiers whose `!ident` is rewritten to `ident == null`.",
   "nullable-identifiers = " ++ String.ofList (quotedList Catalog.defaultIdentifiers),
   "",
   "# Built-in rules to skip, e.g. \"console-log-to-warn\" or \"nullable-check\".",
   "disabled-rules = []",
   "",
   "# Extra rules run after the built-in ones, in file order.",
   "# [[rules]]",
   "# id = \"logger-warn\"",
   "# pattern = 'console\\.warn\\('",
   "# replacement = \"logger.warn(\""]

/-- The file with which a project starts. -/
def template : String := String.join (templateLines.map (· ++ "\n"))

end LintRepair.Settings
