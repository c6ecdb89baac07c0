import LintRepair.Text.CharSet
import LintRepair.Text.CaseFold
import LintRepair.Text.Digit
import LintRepair.Text.Property
import LintRepair.Text.Utf8
import LintRepair.Text.WordChar
import LintRepair.Pattern.Regex
import LintRepair.Replacement.Substitution
import LintRepair.Files.FilePath
import LintRepair.Files.Ancestors
import LintRepair.Files.Tree
import LintRepair.Fault
import LintRepair.Rule.Basic
import LintRepair.Rule.Catalog
import LintRepair.Repair
import LintRepair.Toml.Document
import LintRepair.Settings.Basic
import LintRepair.Settings.Layout
import LintRepair.Settings.Effective
import LintRepair.Settings.Cascade
import LintRepair.CommandLine.Help
import LintRepair.CommandLine.Arguments
import LintRepair.CommandLine.Run
import LintRepair.Main
import LintRepair.Proofs.Pattern.Reading
import LintRepair.Proofs.Pattern.Sequence
import LintRepair.Proofs.Pattern.Layout
import LintRepair.Proofs.Pattern.Exploration
import LintRepair.Proofs.Pattern.Matches
import LintRepair.Proofs.Pattern.Repetition
import LintRepair.Proofs.Replacement.Rewriting
import LintRepair.Proofs.Replacement.Filling
import LintRepair.Proofs.Replacement.Trimming
import LintRepair.Proofs.Replacement.Phrase
import LintRepair.Proofs.Replacement.Edit
import LintRepair.Proofs.Replacement.Scanner
import LintRepair.Proofs.Rule.Realization
import LintRepair.Proofs.Replacement.Pieces
import LintRepair.Proofs.Rule.FixedEdits
import LintRepair.Proofs.Rule.Negation
import LintRepair.Proofs.Rule.Interaction
import LintRepair.Proofs.Rule.Scanning
import LintRepair.Proofs.Rule.Passes
import LintRepair.Proofs.Rule.Settling
import LintRepair.Proofs.Rule.Runs
import LintRepair.Proofs.Rule.DefaultRules
import LintRepair.Proofs.Files.Outline
import LintRepair.Proofs.Repair.OneFile
import LintRepair.Proofs.Repair.InPlace
import LintRepair.Proofs.Settings.Discovery
import LintRepair.Proofs.Settings.Selection
import LintRepair.Proofs.Rule.OnePass
import LintRepair.Proofs.Files.Way
import LintRepair.Proofs.Files.Removal
import LintRepair.Proofs.Repair.Agreement
import LintRepair.Proofs.CommandLine.Operands
import LintRepair.Proofs.CommandLine.RepairRun
import LintRepair.Proofs.Settings.Broken
import LintRepair.Proofs.CommandLine.BrokenSettings
import LintRepair.Proofs.Files.Component
import LintRepair.Proofs.Settings.Counting
import LintRepair.Proofs.Settings.Climb
import LintRepair.Proofs.CommandLine.Changes
import LintRepair.Proofs.CommandLine.Validation
import LintRepair.Proofs.Settings.Provenance
import LintRepair.Proofs.Settings.Merging
import LintRepair.Proofs.CommandLine.Reading
import LintRepair.Proofs.CommandLine.Options
import LintRepair.Proofs.CommandLine.ReadOnly
import LintRepair.Proofs.Settings.Template
import LintRepair.Proofs.Toml.Quoting
import LintRepair.Proofs.Toml.Lines
import LintRepair.Proofs.Toml.Tables
import LintRepair.Proofs.Settings.RoundTrip
import LintRepair.Proofs.Files.Member
import LintRepair.Proofs.CommandLine.Starting
import LintRepair.Proofs.CommandLine.FileWords
import LintRepair.Proofs.Replacement.Independence
import LintRepair.Proofs.Rule.Reordering
import LintRepair.Proofs.Text.Encoding
import LintRepair.Proofs.Text.Decoding
import LintRepair.Proofs.Repair.ReadingText
import LintRepair.Proofs.Replacement.Barrier
import LintRepair.Proofs.Rule.LineByLine
import LintRepair.Proofs.Repair.LineEnds
