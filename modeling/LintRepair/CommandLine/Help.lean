/-! # Help

The texts that explain the command line, one for each subcommand.
-/

namespace LintRepair.CommandLine

/-- What can be explained. -/
inductive Topic where
  | program
  | config
  | configShow
  | configValidate
  | help
  | configHelp
  deriving DecidableEq, Repr

namespace Topic

/-- What a subcommand is about. -/
def about : Topic → String
  | .program =>
    "CLI tool for mechanically repairing lint violations with ordered regex rewrites"
  | .config => "Configuration management commands"
  | .configShow => "Display discovered configuration files in cascade order"
  | .configValidate => "Check all config files and rules for errors without fixing anything"
  | .help => "Print this message or the help of the given subcommand(s)"
  | .configHelp => "Print this message or the help of the given subcommand(s)"

/-- How a subcommand is called. -/
def usage : Topic → String
  | .program => "lintfix [OPTIONS] [FILE]... [COMMAND]"
  | .config => "lintfix config <COMMAND>"
  | .configShow => "lintfix config show"
  | .configValidate => "lintfix config validate"
  | .help => "lintfix help [COMMAND]..."
  | .configHelp => "lintfix config help [COMMAND]..."

/-- The lines on the only option of a subcommand. -/
def helpOption : List String :=
  ["",
   "Options:",
   "  -h, --help  Print help"]

/-- The lines on the only argument of the help subcommands. -/
def helpArgument : List String :=
  ["",
   "Arguments:",
   "  [COMMAND]...  Print help for the subcommand(s)"]

/-- The lines after the usage. -/
def details : Topic → List String
  | .program =>
    ["",
     "Commands:",
     "  config  " ++ about .config,
     "  help    " ++ about .help,
     "",
     "Arguments:",
     "  [FILE]...  Files to fix, processed in order",
     "",
     "Options:",
     "      --dry-run     Report files that would change without writing them",
     "      --no-config   Ignore .lintfix.toml files and use the built-in rules only",
     "      --list-rules  Print the effective rules in application order",
     "      --init        Create a template .lintfix.toml in the current directory",
     "      --force       Overwrite existing .lintfix.toml when using --init",
     "  -h, --help        Print help",
     "  -V, --version     Print version",
     "",
     "Paths named like a subcommand or starting with '-' go after '--', e.g. " ++
       "`lintfix -- config -odd.ts`."]
  | .config =>
    ["",
     "Commands:",
     "  show      " ++ about .configShow,
     "  validate  " ++ about .configValidate,
     "  help      " ++ about .configHelp] ++ helpOption
  | .configShow => helpOption
  | .configValidate => helpOption
  | .help => helpArgument
  | .configHelp => helpArgument

/-- The whole help text. -/
def text (t : Topic) : String :=
  String.join ((t.about :: "" :: ("Usage: " ++ t.usage) :: t.details).map (· ++ "\n"))

end Topic

/-- The name and the version of the program. -/
def versionText : String := "lintfix 0.1.0\n"

end LintRepair.CommandLine
