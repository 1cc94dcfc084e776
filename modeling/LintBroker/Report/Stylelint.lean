/-
  LintBroker.Report.Stylelint

  Issues of a Stylelint report: a list of sources, each with its warnings.  The
  ordinals start anew for each source, whose path is part of the id.
-/
import LintBroker.Issue
import LintBroker.Report.Fields

namespace LintBroker.Report.Stylelint

/-- The tag in the ids of these issues. -/
def tag : String := "css"

/-- The issue of a warning. -/
def issue (path : String) (warning : Members) (ordinal : Nat) : Except Failure Issue := do
  let line ← optionalInt (warning.get "line")
  let column ← optionalInt (warning.get "column")
  pure
    { id := issueId tag path ordinal
      severity := textOr (warning.get "severity") "warning"
      message := textOr (warning.get "text") ""
      line, column
      rule := optionalText (warning.get "rule") }

/-- The issues of one source. -/
def sourceIssues (source : Members) : Except Failure (List Issue) :=
  let path := textOr (source.get "source") ""
  (tables (source.get "warnings")).zipIdx.mapM fun (warning, n) => issue path warning n

/-- The issues of a report, source by source. -/
def issues (report : Datum) : Except Failure (List Issue) :=
  ((tables report).mapM sourceIssues).map List.flatten

end LintBroker.Report.Stylelint
