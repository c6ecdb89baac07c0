import LintRepair.CommandLine.Help

/-! # Arguments

What the arguments of a run ask for, or why they are refused. Arguments are taken from the left. A word
that is no option is a file, but for the name of a subcommand that does not follow a file directly;
after `--` every word is a file.
-/

namespace LintRepair.CommandLine

/-- The options that switch something on. -/
inductive Flag where
  | dryRun
  | noConfig
  | listRules
  | init
  | force
  deriving DecidableEq, Repr

namespace Flag

/-- The option without its dashes. -/
def name : Flag → String
  | .dryRun => "dry-run"
  | .noConfig => "no-config"
  | .listRules => "list-rules"
  | .init => "init"
  | .force => "force"

def all : List Flag := [.dryRun, .noConfig, .listRules, .init, .force]

/-- The option with a name. -/
def ofName? (name : String) : Option Flag := all.find? (·.name == name)

end Flag

/-- What can be given before a subcommand. -/
inductive Item where
  | flag (f : Flag)
  | files
  deriving DecidableEq, Repr

namespace Item

/-- How messages call an item. -/
def text : Item → String
  | .flag f => "--" ++ f.name
  | .files => "[FILE]..."

/-- Whether two items exclude each other. -/
def excludes : Item → Item → Bool
  | .files, .flag .listRules => true
  | .files, .flag .init => true
  | .flag .listRules, .files => true
  | .flag .init, .files => true
  | _, _ => false

end Item

/-- The subcommands that look at settings. -/
inductive SettingsCommand where
  | showFiles
  | validate
  deriving DecidableEq, Repr

/-- What has been given so far: the items in the order of their first use, and the files. -/
structure Given where
  items : List Item
  files : List String
  deriving Repr

namespace Given

def nothing : Given := ⟨[], []⟩

def has (g : Given) (i : Item) : Bool := g.items.contains i

/-- Adds an item at its first use. -/
def add (g : Given) (i : Item) : Given := if g.has i then g else { g with items := g.items ++ [i] }

/-- Adds a file. -/
def addFile (g : Given) (file : String) : Given :=
  let g := g.add .files
  { g with files := g.files ++ [file] }

/-- Adds files. -/
def addFiles (g : Given) (files : List String) : Given := files.foldl addFile g

end Given

/-- Why arguments are refused. -/
inductive Refusal where
  | unexpected (arg : String)
  | unrecognized (arg : String)
  | repeated (f : Flag)
  | attached (value option : String)
  | emptyFile
  | conflict (first : Item) (others : List Item)
  | missingInit
  /-- Nothing was asked for, which shows the help of a subcommand. -/
  | idle (topic : Topic)
  deriving Repr

namespace Refusal

/-- The wording of a refusal. -/
def message : Refusal → String
  | .unexpected arg => "error: unexpected argument '" ++ arg ++ "' found\n"
  | .unrecognized arg => "error: unrecognized subcommand '" ++ arg ++ "'\n"
  | .repeated f =>
    "error: the argument '" ++ (Item.flag f).text ++ "' cannot be used multiple times\n"
  | .attached value option =>
    "error: unexpected value '" ++ value ++ "' for '" ++ option ++
      "' found; no more were expected\n"
  | .emptyFile =>
    "error: a value is required for '" ++ Item.files.text ++ "' but none was supplied\n"
  | .conflict first [other] =>
    "error: the argument '" ++ first.text ++ "' cannot be used with '" ++ other.text ++ "'\n"
  | .conflict first others =>
    "error: the argument '" ++ first.text ++ "' cannot be used with:\n" ++
      String.join (others.map fun i => "  " ++ i.text ++ "\n")
  | .missingInit =>
    "error: the following required arguments were not provided:\n  " ++
      (Item.flag .init).text ++ "\n"
  | .idle topic => topic.text

end Refusal

/-- What a run is asked to do. -/
inductive Request where
  | help (topic : Topic)
  | version
  | init (force : Bool)
  | settings (command : SettingsCommand)
  | listRules (noConfig : Bool)
  | repair (files : List String) (dryRun noConfig : Bool)
  deriving DecidableEq, Repr

/-- The kinds of words. -/
inductive Word where
  | dashes
  | long (name : String) (value : Option String)
  | short (letter : Char)
  | plain
  deriving DecidableEq, Repr

/-- What kind of word an argument is. -/
def Word.ofArgument (arg : String) : Word :=
  match arg.toList with
  | ['-', '-'] => .dashes
  | '-' :: '-' :: cs =>
    match cs.span (· != '=') with
    | (name, _ :: value) => .long (String.ofList name) (some (String.ofList value))
    | (name, []) => .long (String.ofList name) none
  | '-' :: c :: _ => .short c
  | _ => .plain

/-- The help that the words after a help subcommand ask for. -/
def Topic.find : Topic → List String → Except Refusal Request
  | topic, [] => .ok (.help topic)
  | .program, "config" :: args => Topic.find .config args
  | .program, "help" :: args => Topic.find .help args
  | .config, "show" :: args => Topic.find .configShow args
  | .config, "validate" :: args => Topic.find .configValidate args
  | .config, "help" :: args => Topic.find .configHelp args
  | _, arg :: _ => .error (.unrecognized arg)

/-- Refuses a word that a subcommand knows nothing about, or shows its help. -/
def helpOr (topic : Topic) (arg : String) (unknown : Refusal) : Except Refusal Request :=
  match Word.ofArgument arg with
  | .long "help" none => .ok (.help topic)
  | .long "help" (some value) => .error (.attached value "--help")
  | .long name _ => .error (.unexpected ("--" ++ name))
  | .short 'h' => .ok (.help topic)
  | .short c => .error (.unexpected (String.ofList ['-', c]))
  | _ => .error unknown

/-- The words after a subcommand that takes none. -/
def leaf (topic : Topic) (command : SettingsCommand) : List String → Except Refusal Request
  | [] => .ok (.settings command)
  | ["--"] => .ok (.settings command)
  | "--" :: arg :: _ => .error (.unexpected arg)
  | arg :: _ => helpOr topic arg (.unexpected arg)

/-- The words after `config`. -/
def configWords : List String → Except Refusal Request
  | [] => .error (.idle .config)
  | "show" :: args => leaf .configShow .showFiles args
  | "validate" :: args => leaf .configValidate .validate args
  | "help" :: args => Topic.find .config args
  | ["--"] => .error (.idle .config)
  | "--" :: arg :: _ =>
    if ["show", "validate", "help"].contains arg then .error (.unexpected arg)
    else .error (.unrecognized arg)
  | arg :: _ => helpOr .config arg (.unrecognized arg)

namespace Given

/-- The first item that others exclude, with these others. -/
def conflict? (g : Given) : Option (Item × List Item) :=
  (g.items.map fun i => (i, g.items.filter i.excludes)).find? (!·.2.isEmpty)

/-- What is wrong with the items together. Overwriting needs `--init`, unless that is excluded. -/
def fault? (g : Given) : Option Refusal :=
  match g.conflict? with
  | some (first, others) => some (.conflict first others)
  | none =>
    if g.has (.flag .force) && !g.has (.flag .init) && !g.has .files then some .missingInit
    else none

/-- What is asked for when there is no subcommand that settles it. -/
def request (g : Given) (command : Option SettingsCommand) : Request :=
  if g.has (.flag .init) then .init (g.has (.flag .force))
  else match command with
    | some command => .settings command
    | none =>
      if g.has (.flag .listRules) then .listRules (g.has (.flag .noConfig))
      else .repair g.files (g.has (.flag .dryRun)) (g.has (.flag .noConfig))

/-- What the items and a subcommand ask for together. -/
def finish (g : Given) (command : Option SettingsCommand) : Except Refusal Request :=
  match g.fault? with
  | some refusal => .error refusal
  | none => .ok (g.request command)

/-- What the items ask for when no subcommand follows. -/
def finishAlone (g : Given) : Except Refusal Request :=
  if g.files.contains "" then .error .emptyFile
  else if g.items.isEmpty then .error (.idle .program)
  else g.finish none

/-- Takes an option; the files before it have to have names. -/
def takeFlag (g : Given) (f : Flag) : Except Refusal Given :=
  if g.files.contains "" then .error .emptyFile
  else if g.has (.flag f) then .error (.repeated f)
  else .ok (g.add (.flag f))

/-- Answers at once; the files before have to have names. -/
def answer (g : Given) (r : Request) : Except Refusal Request :=
  if g.files.contains "" then .error .emptyFile else .ok r

/-- What items ask for together with the words after `config`. -/
def withConfig (g : Given) (args : List String) : Except Refusal Request :=
  match configWords args with
  | .ok (.settings command) => g.finish (some command)
  | other => other

/-- Takes words from the left. The truth value says whether a file comes directly before. -/
def read (g : Given) (afterFile : Bool) : List String → Except Refusal Request
  | [] => g.finishAlone
  | arg :: args =>
    if !afterFile && arg = "config" then g.withConfig args
    else if !afterFile && arg = "help" then Topic.find .program args
    else match Word.ofArgument arg with
      | .dashes => (g.addFiles args).finishAlone
      | .plain => (g.addFile arg).read true args
      | .short 'h' => g.answer (.help .program)
      | .short 'V' => g.answer .version
      | .short c => .error (.unexpected (String.ofList ['-', c]))
      | .long "help" none => g.answer (.help .program)
      | .long "version" none => g.answer .version
      | .long name value =>
        match Flag.ofName? name, value with
        | some f, none =>
          match g.takeFlag f with
          | .ok g => g.read false args
          | .error refusal => .error refusal
        | some f, some value => .error (.attached value (Item.flag f).text)
        | none, some value =>
          if name = "help" || name = "version" then .error (.attached value ("--" ++ name))
          else .error (.unexpected ("--" ++ name))
        | none, none => .error (.unexpected ("--" ++ name))

end Given

/-- What arguments ask for. -/
def Request.read (args : List String) : Except Refusal Request := Given.nothing.read false args

end LintRepair.CommandLine
