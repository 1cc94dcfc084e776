/-
  LintBroker.Report.Fields

  Reading the fields of a report.  What is not a table is passed over; numbers may be
  given as texts of digits, and any value can be taken as a text.
-/
import LintBroker.Data.Display
import LintBroker.Failure
import LintBroker.Text.Blank
import LintBroker.Text.Digit

namespace LintBroker.Report

open LintBroker.Number LintBroker.Text

/-! ## Tables -/

/-- The tables among values. -/
def tablesOf (values : List Datum) : List Members := values.filterMap Datum.table?

/-- The tables in a list; any other value holds none. -/
def tables (value : Datum) : List Members := tablesOf (value.list?.getD [])

/-! ## Numbers -/

/-- A blank that a number may have around it: every one but the four information separators. -/
def isOuterBlank (c : Char) : Bool := isBlank c && !(0x1c ≤ c.toNat && c.toNat ≤ 0x1f)

/-- The complaint about a text that writes no number; a long text is shown up to a limit. -/
def invalidNumber (cs : List Char) : Failure :=
  .invalidValue ("invalid literal for int() with base 10: "
    ++ String.ofList ((quotedChars cs).take 200))

/-- The number that a text of decimal digits with blanks around it writes. -/
def numberOf (cs : List Char) : Except Failure Int :=
  let body := cs.dropWhile isOuterBlank
  let digits := body.takeWhile isDecimal
  let rest := body.dropWhile isDecimal
  if digitLimit < digits.length then .error (.invalidValue (digitLimitMessage digits.length))
  else if digits ≠ [] ∧ rest.all isOuterBlank then .ok (decimalRowValue digits)
  else .error (invalidNumber cs)

/-- A text consists of digits, blanks around it left out. -/
def isDigitText (cs : List Char) : Bool :=
  let body := stripChars cs
  !body.isEmpty && body.all isDigit

/-- A number, or a text of digits as a number; of any other value there is none. -/
def optionalInt : Datum → Except Failure (Option Int)
  | .int n => .ok (some n)
  | .text s => if isDigitText s.toList then (numberOf s.toList).map some else .ok none
  | _ => .ok none

/-! ## Texts -/

/-- Any value as a text, but nothing for null. -/
def optionalText : Datum → Option String
  | .null => none
  | value => some value.asText

/-- A value as a text; null and the empty text give the other text. -/
def textOr (value : Datum) (other : String) : String :=
  match optionalText value with
  | some s => if s = "" then other else s
  | none => other

/-! ## Numbering -/

/-- The id of an issue: tag, path and ordinal. -/
def issueId (tag path : String) (ordinal : Nat) : String :=
  tag ++ "-" ++ path ++ "-" ++ natText ordinal

end LintBroker.Report
