import LintRepair.Files.Tree
import LintRepair.Pattern.Regex
import LintRepair.Text.Utf8

/-! # Faults

What can go wrong, by its cause. `Fault.display` is the wording of a fault alone and `Fault.report`
adds the wording of its cause on the same line.
-/

namespace LintRepair

open LintRepair.Files LintRepair.Text LintRepair.Pattern

/-- What can go wrong in reading settings, compiling rules and fixing files. -/
inductive Fault where
  | fileRead (path : FilePath) (cause : AccessFault)
  | fileDecode (path : FilePath) (cause : Utf8.DecodeFault)
  | fileWrite (path : FilePath) (cause : AccessFault)
  | settingsRead (path : FilePath) (cause : AccessFault)
  | settingsParse (path : FilePath)
  | invalidPattern (rule pattern : String) (cause : CompileFault)
  | unknownRule (id : String)
  | reservedRule (id : String)
  | emptyIdentifier (field : String)
  | noHome
  deriving DecidableEq, Repr

namespace Fault

/-- The wording of a fault without its cause. -/
def display : Fault → String
  | .fileRead path _ => "Failed to read file: " ++ path.text
  | .fileDecode path _ => "File is not valid UTF-8: " ++ path.text
  | .fileWrite path _ => "Failed to write file: " ++ path.text
  | .settingsRead path _ => "Failed to read config file: " ++ path.text
  | .settingsParse path => "Failed to parse config file: " ++ path.text
  | .invalidPattern rule pattern _ => "Invalid regex pattern in rule " ++ rule ++ ": " ++ pattern
  | .unknownRule id => "Unknown rule id: " ++ id
  | .reservedRule id => "Rule id " ++ id ++ " is reserved for a built-in rule"
  | .emptyIdentifier field => "Empty identifier in " ++ field
  | .noHome => "Failed to resolve home directory"

/-- The wording of the cause of a fault, if it has one. -/
def cause? : Fault → Option String
  | .fileRead _ cause => some cause.message
  | .fileDecode _ cause => some cause.message
  | .fileWrite _ cause => some cause.message
  | .settingsRead _ cause => some cause.message
  | .settingsParse _ => some "TOML parse error"
  | .invalidPattern _ _ cause => some cause.message
  | _ => none

/-- The wording of a fault with its cause. -/
def report (f : Fault) : String :=
  match f.cause? with
  | some cause => f.display ++ ": " ++ cause
  | none => f.display

end Fault

end LintRepair
