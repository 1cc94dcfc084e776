/-
  LintBroker.Report.Eslint

  Issues of an ESLint report: a list of files, each with its messages.  The ordinals
  start anew for each file, whose path is part of the id.
-/
import LintBroker.Issue
import LintBroker.Report.Fields

namespace LintBroker.Report.Eslint

/-- The tag in the ids of these issues. -/
def tag : String := "js"

/-- The number that marks a message as an error. -/
def errorLevel : Int := 2

/-- The issue of a message. -/
def issue (path : String) (message : Members) (ordinal : Nat) : Except Failure Issue := do
  let line ← optionalInt (message.get "line")
  let column ← optionalInt (message.get "column")
  pure
    { id := issueId tag path ordinal
      severity := if (message.get "severity").equalsInt errorLevel then "error" else "warning"
      message := textOr (message.get "message") ""
      line, column
      rule := optionalText (message.get "ruleId")
      fixable := match message.get "fix" with
        | .null => false
        | _ => true }

/-- The issues of one file. -/
def fileIssues (file : Members) : Except Failure (List Issue) :=
  let path := textOr (file.get "filePath") ""
  (tables (file.get "messages")).zipIdx.mapM fun (message, n) => issue path message n

/-- The issues of a report, file by file. -/
def issues (report : Datum) : Except Failure (List Issue) :=
  ((tables report).mapM fileIssues).map List.flatten

end LintBroker.Report.Eslint
