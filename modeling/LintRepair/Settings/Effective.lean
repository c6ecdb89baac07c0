import LintRepair.Settings.Basic

/-! # Settings in force

The settings of several files taken together, and the pipeline that they describe. Files come with
the innermost first. The innermost list of identifiers counts, an entry that disables rules counts
wherever it stands, and the rules of outer files run before those of inner ones.
-/

namespace LintRepair

open LintRepair.Files

/-- Settings with the file that they were read from. -/
structure LoadedSettings where
  path : FilePath
  settings : Settings
  deriving DecidableEq, Repr

/-- A rule with the settings file that it comes from. -/
structure SourcedRule where
  rule : Rule
  source : FilePath
  deriving DecidableEq, Repr

/-- The settings of several files taken together. -/
structure Effective where
  nullableIdentifiers : Option (List String)
  disabledRules : List String
  rules : List SourcedRule
  deriving DecidableEq, Repr

namespace LoadedSettings

/-- The rules of a file with the file as their source. -/
def sourced (l : LoadedSettings) : List SourcedRule := l.settings.rules.map fun r => ⟨r, l.path⟩

end LoadedSettings

namespace Effective

/-- Adds the entries of a list that are not there yet, in order. -/
def union (known added : List String) : List String :=
  added.foldl (fun known id => if known.contains id then known else known ++ [id]) known

/-- Takes the settings of several files together. -/
def ofLoaded (files : List LoadedSettings) : Effective where
  nullableIdentifiers := files.findSome? (·.settings.nullableIdentifiers)
  disabledRules := files.foldl (fun known l => union known l.settings.disabledRules) []
  rules := files.reverse.flatMap LoadedSettings.sourced

/-- The identifiers in force. -/
def identifiers (e : Effective) : List String :=
  e.nullableIdentifiers.getD Catalog.defaultIdentifiers

/-- Whether a disabled entry can mean a rule: a built-in one, listed or not, or an extra one. -/
def knows (e : Effective) (entry : String) : Bool :=
  Catalog.isReserved entry || e.rules.any (·.rule.id == entry)

/-- Whether no disabled entry selects the rule with an id. -/
def isEnabled (e : Effective) (id : String) : Bool :=
  !e.disabledRules.any (Catalog.selects · id)

/-- The built-in rules that are enabled. -/
def enabledBuiltins (e : Effective) : List Rule :=
  (Catalog.rules e.identifiers).filter (e.isEnabled ·.id)

/-- The extra rules that are enabled. -/
def enabledExtras (e : Effective) : List SourcedRule := e.rules.filter (e.isEnabled ·.rule.id)

/-- The pipeline that the settings describe: the enabled built-in rules, then the enabled extra
    ones. Every disabled entry has to be known. -/
def pipeline (e : Effective) : Except Fault Pipeline :=
  match e.disabledRules.find? (!e.knows ·) with
  | some entry => .error (.unknownRule entry)
  | none => do
    let builtins ← Rule.compileAll e.enabledBuiltins
    let extras ← e.enabledExtras.mapM fun r => r.rule.compile (some r.source)
    return builtins ++ extras

end Effective

end LintRepair
