/-
  LintBroker.Report.Source

  Finding the report among the streams of an engine: the first stream that is not
  blank and that is JSON text.
-/
import LintBroker.Json.Reader
import LintBroker.Text.Blank
import LintBroker.Traced

namespace LintBroker.Report

open LintBroker.Journal LintBroker.Number LintBroker.Text

/-- The note on a stream that is no report; a long stream is shown up to a limit. -/
def notReport (text : String) : Record :=
  { logger := loggerOf "analyzers.common", level := .debug
    message := "Stream is not a JSON report: " ++ String.ofList (text.toList.take 200) }

/-- The report in the first of the streams that holds one.  A number with too many digits ends the
    search. -/
def readReport : List String → Traced Datum
  | [] => .fail (.engine "engine produced no JSON report")
  | stream :: rest =>
    let text := strip stream
    if text = "" then readReport rest
    else
      match Json.read text with
      | .ok report => pure report
      | .error (.tooManyDigits count) => .fail (.invalidValue (digitLimitMessage count))
      | .error .malformed => do
        Traced.log (notReport text)
        readReport rest

end LintBroker.Report
