/-
  LintBroker.Journal.Line

  Records as lines: one JSON object for each, in ASCII and without a line break, with
  the time in the world's time zone to the second.
-/
import LintBroker.Journal.Record
import LintBroker.Data.Display
import LintBroker.Json.Printer

namespace LintBroker.Journal

open LintBroker.Number

/-! ## Points in time -/

/-- The seconds of a day. -/
def secondsPerDay : Int := 86400

/-- A date of the calendar. -/
structure Date where
  year : Int
  month : Nat
  day : Nat
  deriving DecidableEq, Repr

/-- The date a count of days after the first of January 1970.  Years are counted from the first of
    March, so that the leap day is the last one, in cycles of four hundred. -/
def Date.ofDays (days : Int) : Date :=
  let shifted := days + 719468
  let cycle := shifted.fdiv 146097
  let dayOfCycle := (shifted - cycle * 146097).toNat
  let yearOfCycle :=
    (dayOfCycle - dayOfCycle / 1460 + dayOfCycle / 36524 - dayOfCycle / 146096) / 365
  let dayOfYear := dayOfCycle - (365 * yearOfCycle + yearOfCycle / 4 - yearOfCycle / 100)
  let fifth := (5 * dayOfYear + 2) / 153
  let month := if fifth < 10 then fifth + 3 else fifth - 9
  { year := yearOfCycle + cycle * 400 + if month ≤ 2 then 1 else 0
    month
    day := dayOfYear - (153 * fifth + 2) / 5 + 1 }

/-- A number with at least two digits. -/
def twoFigures (n : Nat) : String := String.ofList (padZeros 2 (natChars n))

/-- The text of a count of seconds after the first of January 1970. -/
def timeText (seconds : Int) : String :=
  let date := Date.ofDays (seconds.fdiv secondsPerDay)
  let second := (seconds.fmod secondsPerDay).toNat
  intText date.year ++ "-" ++ twoFigures date.month ++ "-" ++ twoFigures date.day ++ "T"
    ++ twoFigures (second / 3600) ++ ":" ++ twoFigures (second / 60 % 60) ++ ":"
    ++ twoFigures (second % 60)

/-- A point in time from a number of seconds, whole or not, as whole seconds before it.  They have
    to fit in 64 bits with the sign. -/
def wholeSeconds (value : Datum) : Except Failure Int :=
  let checked (n : Int) : Except Failure Int :=
    if -Int.pow 2 63 ≤ n ∧ n < Int.pow 2 63 then .ok n
    else .error (.overflow "the time is out of range")
  match value with
  | .int n => checked n
  | .bool b => .ok (if b then 1 else 0)
  | .float .nan => .error (.invalidValue "Invalid value NaN (not a number)")
  | .float x => x.floor?.elim (.error (.overflow "the time is out of range")) checked
  | value => .error (.wrongKind ("a time is a number, not " ++ value.kindName))

/-- The text of a point in time.  The years of the calendar, counted from 1900, fit in 32 bits with
    the sign, and so do those that are written. -/
def timeTextOf (value : Datum) : Except Failure String := do
  let seconds ← wholeSeconds value
  let year := (Date.ofDays (seconds.fdiv secondsPerDay)).year
  if year - 1900 < -Int.pow 2 31 ∨ Int.pow 2 31 ≤ year - 1900 then .error (.system .tooLarge none)
  else if Int.pow 2 31 ≤ year then .error (.overflow "the year is out of range")
  else pure (timeText seconds)

/-! ## Lines -/

/-- A member for a field that the record has. -/
def fieldMember (name : String) (field : Option Datum) : Members :=
  match field with
  | some value => [(name, value)]
  | none => []

/-- The table that stands for a record which was made at a time. -/
def Record.datum (record : Record) (time : String) : Datum :=
  .table
    ([("ts", .text time), ("level", .text record.level.name), ("logger", .text record.logger),
        ("msg", .text record.message)]
      ++ fieldMember "tool" record.tool ++ fieldMember "args" record.args
      ++ fieldMember "duration_ms" record.duration ++ fieldMember "error" record.error
      ++ fieldMember "exception" (record.failure.map fun failure => .text failure.message))

/-- The line of a record. -/
def Record.line (record : Record) (time : String) : String := Json.inlineText (record.datum time)

end LintBroker.Journal
