/-
  LintBroker.Issue

  One normalized diagnostic, and the value that stands for it in replies.
-/
import LintBroker.Data.Datum

namespace LintBroker

/-- A diagnostic.  Line, column and rule are none when the engine gives no value. -/
structure Issue where
  id : String
  severity : String
  message : String
  line : Option Int := none
  column : Option Int := none
  rule : Option String := none
  fixable : Bool := false
  deriving DecidableEq, Repr

namespace Datum

/-- A number or null. -/
def ofInt? : Option Int → Datum
  | some n => .int n
  | none => .null

/-- A text or null. -/
def ofText? : Option String → Datum
  | some s => .text s
  | none => .null

end Datum

/-- The table that stands for an issue. -/
def Issue.datum (issue : Issue) : Datum :=
  .table
    [("id", .text issue.id), ("line", .ofInt? issue.line), ("column", .ofInt? issue.column),
      ("severity", .text issue.severity), ("message", .text issue.message),
      ("ruleId", .ofText? issue.rule), ("fixable", .bool issue.fixable)]

end LintBroker
