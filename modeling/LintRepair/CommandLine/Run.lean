import LintRepair.CommandLine.Arguments
import LintRepair.Repair
import LintRepair.Settings.Cascade
import LintRepair.Settings.Layout

/-! # A run of the program

What a run prints, how it ends and what it does to the files. Settings that cannot be used never stop
a repair: they are left out with a warning. Only looking at the settings takes their faults for its own.
-/

namespace LintRepair.CommandLine

open LintRepair.Files

/-- How a run ends: its exit code, what it prints, and the files afterwards. -/
structure Result where
  code : Nat
  stdout : String
  stderr : String
  tree : FileTree

/-- Puts line ends after lines. -/
def lines (ls : List String) : String := String.join (ls.map (· ++ "\n"))

/-- Puts text between parts. -/
def commaSeparated (parts : List String) : String := ", ".intercalate parts

/-! Failures -/

/-- Puts blanks in front of all lines of a text but the first. -/
def hang (blanks : String) (text : String) : String :=
  String.join <| (text.toList.map fun c => if c = '\n' then "\n" ++ blanks else c.toString)

/-- The causes of a failure, each in its own lines and with a number when there are several. -/
def causeLines : List String → List String
  | [cause] => ["    " ++ hang "    " cause]
  | causes => causes.zipIdx.map fun (cause, i) => "    " ++ toString i ++ ": " ++ hang "       " cause

/-- The text about a failure and its causes. -/
def failureText (message : String) (causes : List String) : String :=
  lines <| ("error: " ++ message) ::
    if causes.isEmpty then [] else "" :: "Caused by:" :: causeLines causes

/-- A fault and its cause, the fault first. -/
def faultChain (f : Fault) : List String := f.display :: f.cause?.toList

/-! The pipeline of a repair -/

/-- A pipeline with the warnings about settings that it leaves out. -/
structure Prepared where
  pipeline : Except Fault Pipeline
  warnings : List String

/-- The pipeline of a repair. Settings that do not compile count as none. The current directory is
    known here, so there is no warning that it cannot be read. -/
def prepare (w : Workspace) (noConfig : Bool) : Prepared :=
  if noConfig then ⟨Catalog.pipeline, []⟩
  else
    let c := w.cascade w.here
    let skipped := c.faults.map fun f => "Warning: skipping config: " ++ f.report
    match (Effective.ofLoaded c.loaded).pipeline with
    | .ok p => ⟨.ok p, skipped⟩
    | .error f =>
      ⟨Catalog.pipeline,
       skipped ++ ["Warning: ignoring configuration (" ++ f.report ++ "), using built-in rules"]⟩

/-- Goes on with the pipeline of a repair. -/
def withPipeline (w : Workspace) (noConfig : Bool) (next : Pipeline → Result) : Result :=
  let prepared := prepare w noConfig
  let warnings := lines prepared.warnings
  match prepared.pipeline with
  | .ok p =>
    let r := next p
    { r with stderr := warnings ++ r.stderr }
  | .error f =>
    ⟨1, "", warnings ++ failureText "Failed to compile built-in rules" (faultChain f), w.tree⟩

/-! The requests -/

/-- The lines about a rule of a pipeline. -/
def ruleLines (r : CompiledRule) (number : Nat) : List String :=
  [toString number ++ ". " ++ r.id,
   "    pattern: " ++ r.rule.pattern,
   "    replacement: " ++ r.rule.replacement] ++
    r.source.toList.map fun path => "    source: " ++ path.text

/-- Lists the rules of a pipeline. -/
def listRules (w : Workspace) (p : Pipeline) : Result :=
  ⟨0, lines ((p.zipIdx 1).flatMap fun (r, i) => ruleLines r i), "", w.tree⟩

/-- Repairs files and reports those with something to say. -/
def repairFiles (w : Workspace) (p : Pipeline) (files : List String) (dryRun : Bool) : Result :=
  if files.isEmpty then
    ⟨1, "", failureText "No files given. Pass one or more paths to fix." [], w.tree⟩
  else
    let mode := if dryRun then RepairMode.dryRun else RepairMode.write
    let (reports, tree) := p.repairAll mode w.cwd w.tree (files.map FilePath.mk)
    ⟨0, lines ((reports.filter (!·.isSilent)).map Report.line), "", tree⟩

/-- Writes the settings file with which a project starts. -/
def writeTemplate (w : Workspace) (force : Bool) : Result :=
  let path : FilePath := ⟨settingsFile⟩
  if w.tree.exists? w.cwd path && !force then
    ⟨1, "", failureText (settingsFile ++ " already exists. Use --force to overwrite.") [], w.tree⟩
  else match w.tree.write w.cwd path Settings.template.toUTF8 with
    | .ok tree => ⟨0, lines ["Created " ++ settingsFile], "", tree⟩
    | .error cause =>
      ⟨1, "", failureText ("Failed to write " ++ path.text) [cause.message], w.tree⟩

/-- The lines about a rule of a settings file. -/
def settingsRuleLines (r : Rule) : List String :=
  ["  Rule " ++ r.id ++ ":",
   "    pattern: " ++ r.pattern,
   "    replacement: " ++ r.replacement,
   ""]

/-- The lines about a settings file. -/
def settingsLines (l : LoadedSettings) : List String :=
  let s := l.settings
  ["# Source: " ++ l.path.text,
   "# root: " ++ String.ofList (Settings.boolText s.root)] ++
    s.nullableIdentifiers.toList.map (fun ids => "# nullable-identifiers: " ++ commaSeparated ids) ++
    (if s.disabledRules.isEmpty then []
      else ["# disabled-rules: " ++ commaSeparated s.disabledRules]) ++
    ["# rules: " ++ toString s.rules.length, ""] ++
    s.rules.flatMap settingsRuleLines

/-- The lines about the settings file of the home directory. -/
def homeLines (w : Workspace) : List String :=
  match w.homeFile? with
  | none => []
  | some path =>
    ["User config path: " ++ path.text,
     if w.tree.exists? w.cwd path then "  (exists)" else "  (not found)"]

/-- Shows the settings files that count. -/
def showSettings (w : Workspace) : Result :=
  match w.loaded w.here with
  | .error f => ⟨1, "", failureText "Failed to discover config files" (faultChain f), w.tree⟩
  | .ok files =>
    let heading := if files.isEmpty then ["No configuration files found."]
      else ["Configuration files (in cascade order):", ""]
    ⟨0, lines (heading ++ files.flatMap settingsLines ++ homeLines w), "", w.tree⟩

/-- The settings files that count and their pipeline, if all of them can be used. -/
def checked (w : Workspace) : Except Fault (List LoadedSettings × Pipeline) := do
  let files ← w.loaded w.here
  let p ← (Effective.ofLoaded files).pipeline
  return (files, p)

/-- Checks the settings files that count. -/
def validateSettings (w : Workspace) : Result :=
  match checked w with
  | .error f => ⟨1, "", lines ["Configuration error: " ++ f.report], w.tree⟩
  | .ok (files, p) =>
    let found := if files.isEmpty then ["No configuration files found."]
      else "All configuration files are valid:" :: files.map fun l =>
        "  " ++ l.path.text ++ " (" ++ toString l.settings.rules.length ++ " rules)"
    ⟨0, lines (found ++ [toString p.length ++ " rules active"]), "", w.tree⟩

/-- Answers a request. -/
def answer (w : Workspace) : Request → Result
  | .help topic => ⟨0, topic.text, "", w.tree⟩
  | .version => ⟨0, versionText, "", w.tree⟩
  | .init force => writeTemplate w force
  | .settings .showFiles => showSettings w
  | .settings .validate => validateSettings w
  | .listRules noConfig => withPipeline w noConfig (listRules w)
  | .repair files dryRun noConfig =>
    withPipeline w noConfig fun p => repairFiles w p files dryRun

/-- The paths that a run may look at or write to. -/
def consulted (w : Workspace) (args : List String) : List FilePath :=
  let files := match Request.read args with
    | .ok (.repair files _ _) => files.map FilePath.mk
    | _ => []
  files ++ ⟨settingsFile⟩ :: w.homeFile?.toList ++
    w.here.ancestors.map (·.file settingsFile)

/-- Runs the program with arguments. -/
def run (w : Workspace) (args : List String) : Result :=
  match Request.read args with
  | .error refusal => ⟨2, "", refusal.message, w.tree⟩
  | .ok request => answer w request

end LintRepair.CommandLine
