/-
  LintBroker.Report.Htmlhint

  Issues of an HTMLHint report: a list of files, each with its messages.  Only one
  file is checked, so all messages are numbered in one row.
-/
import LintBroker.Issue
import LintBroker.Report.Fields

namespace LintBroker.Report.Htmlhint

/-- The tag in the ids of these issues. -/
def tag : String := "html"

/-- The rule of a message is a table with an id. -/
def ruleOf (message : Members) : Option String :=
  (message.get "rule").table?.bind fun rule => optionalText (rule.get "id")

/-- The issue of a message. -/
def issue (path : String) (message : Members) (ordinal : Nat) : Except Failure Issue := do
  let line ← optionalInt (message.get "line")
  let column ← optionalInt (message.get "col")
  pure
    { id := issueId tag path ordinal
      severity := if (message.get "type").text? = some "error" then "error" else "warning"
      message := textOr (message.get "message") ""
      line, column
      rule := ruleOf message }

/-- The messages of all files of a report. -/
def messages (report : Datum) : List Members :=
  (tables report).flatMap fun file => tables (file.get "messages")

/-- The issues of a report on the file at a path. -/
def issues (report : Datum) (path : String) : Except Failure (List Issue) :=
  (messages report).zipIdx.mapM fun (message, n) => issue path message n

end LintBroker.Report.Htmlhint
