import LintRepair.Rule.Catalog
import LintRepair.Toml.Document
import LintRepair.Text.WordChar

/-! # Settings

What one settings file says, and how it is read from the entries of its document. Names that mean
nothing here may stand in the document; what they stand for only has to be representable.
-/

namespace LintRepair

open LintRepair.Files LintRepair.Toml LintRepair.Text

/-- What a settings file says. Without a list of identifiers the default ones stay in force. -/
structure Settings where
  /-- Whether settings of outer directories are left out. -/
  root : Bool
  nullableIdentifiers : Option (List String)
  disabledRules : List String
  rules : List Rule
  deriving DecidableEq, Repr

/-- The characters of the names in a settings file. -/
def rootName : List Char := "root".toList

def identifiersName : List Char := "nullable-identifiers".toList

def disabledName : List Char := "disabled-rules".toList

def rulesName : List Char := "rules".toList

def idName : List Char := "id".toList

def patternName : List Char := "pattern".toList

def replacementName : List Char := "replacement".toList

namespace Settings

/-- The text that a value is. -/
def textOf? : Value → Option String
  | .text cs => some (String.ofList cs)
  | _ => none

/-- The truth value that a value is. -/
def boolOf? : Value → Option Bool
  | .bool b => some b
  | _ => none

/-- The texts that a value lists. -/
def textsOf? : Value → Option (List String)
  | .array items => items.mapM textOf?
  | _ => none

/-- The rule that a value is: a table with three names, or a list that starts with three texts. -/
def ruleOf? : Value → Option Rule
  | .table es =>
    match (es.lookup idName).bind textOf?, (es.lookup patternName).bind textOf?,
        (es.lookup replacementName).bind textOf? with
    | some id, some pattern, some replacement =>
      if Value.isRepresentableEntries es then some ⟨id, pattern, replacement⟩ else none
    | _, _, _ => none
  | .array (.text id :: .text pattern :: .text replacement :: _) =>
    some ⟨String.ofList id, String.ofList pattern, String.ofList replacement⟩
  | _ => none

/-- The rules that a value lists. -/
def rulesOf? : Value → Option (List Rule)
  | .array items => items.mapM ruleOf?
  | _ => none

/-- What an entry stands for, or a default when there is no such entry. -/
def entry? {α : Type} (es : Entries) (name : List Char) (default : α) (read? : Value → Option α) :
    Option α :=
  match es.lookup name with
  | some v => read? v
  | none => some default

/-- Whether a name means something in a settings file. -/
def isKnownName (name : List Char) : Bool :=
  [rootName, identifiersName, disabledName, rulesName].contains name

/-- The settings that entries describe. -/
def ofEntries? (es : Entries) : Option Settings := do
  let root ← entry? es rootName false boolOf?
  let identifiers ← entry? es identifiersName none fun v => (textsOf? v).map some
  let disabled ← entry? es disabledName [] textsOf?
  let rules ← entry? es rulesName [] rulesOf?
  if Value.isRepresentableEntries (es.filter (!isKnownName ·.1)) then
    some ⟨root, identifiers, disabled, rules⟩
  else none

/-- Whether a text is white space only. -/
def isBlank (text : String) : Bool := text.toList.all isWhiteSpace

/-- What is wrong with a rule of a settings file. -/
def ruleFault? (rule : Rule) : Option Fault :=
  if isBlank rule.id then some (.emptyIdentifier "rules.id")
  else if Catalog.isReserved rule.id then some (.reservedRule rule.id)
  else none

/-- What is wrong with settings: an empty identifier, or else the first fault of a rule. -/
def fault? (s : Settings) : Option Fault :=
  if s.nullableIdentifiers.any (·.any (· == "")) then
    some (.emptyIdentifier "nullable-identifiers")
  else s.rules.findSome? ruleFault?

/-- The settings that a text describes. The path is that of the file with the text. -/
def parse (text : String) (path : FilePath) : Except Fault Settings :=
  match (Document.read? text.toList).bind ofEntries? with
  | none => .error (.settingsParse path)
  | some s =>
    match s.fault? with
    | some f => .error f
    | none => .ok s

/-- The settings in a file. -/
def load (t : FileTree) (cwd : Location) (path : FilePath) : Except Fault Settings :=
  match t.read cwd path with
  | .error cause => .error (.settingsRead path cause)
  | .ok bytes =>
    match Utf8.decode bytes with
    | .error _ => .error (.settingsRead path .notText)
    | .ok text => parse text path

end Settings

end LintRepair
