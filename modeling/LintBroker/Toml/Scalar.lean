/-
  LintBroker.Toml.Scalar

  The numbers, dates and times of a TOML document.  Dates are checked against the
  calendar; of the fractions of a second the first six digits count.
-/
import LintBroker.Toml.Lexeme

namespace LintBroker.Toml

open LintBroker.Number

/-! ## Rows of digits -/

/-- A digit of a base. -/
def isDigitOf (base : Nat) (c : Char) : Bool :=
  match digitValue? c with
  | some n => n < base
  | none => false

/-- The digits after the first one of a row, each with at most one low line before it. -/
def moreDigits (base : Nat) : List Char → List Char × List Char
  | [] => ([], [])
  | '_' :: d :: rest =>
    if isDigitOf base d then (d :: (moreDigits base rest).1, (moreDigits base rest).2)
    else ([], '_' :: d :: rest)
  | d :: rest =>
    if isDigitOf base d then (d :: (moreDigits base rest).1, (moreDigits base rest).2)
    else ([], d :: rest)

/-- A row of digits without its low lines, and what follows it. -/
def digitRow? (base : Nat) (cs : List Char) : Option (List Char × List Char) :=
  match cs with
  | d :: rest =>
    if isDigitOf base d then some (d :: (moreDigits base rest).1, (moreDigits base rest).2)
    else none
  | [] => none

/-! ## Numbers -/

/-- The base that a letter after a leading zero announces. -/
def baseOf? : Char → Option Nat
  | 'x' => some 16
  | 'o' => some 8
  | 'b' => some 2
  | _ => none

/-- A whole number in a base other than ten, which takes no sign. -/
def basedNumber? (cs : List Char) : Option (Datum × List Char) :=
  match cs with
  | '0' :: letter :: rest => do
    let base ← baseOf? letter
    let (digits, rest) ← digitRow? base rest
    pure (.int (digitsValue base digits), rest)
  | _ => none

/-- A sign, if there is one; a minus gives true. -/
def sign (cs : List Char) : Bool × List Char :=
  match cs with
  | '-' :: rest => (true, rest)
  | '+' :: rest => (false, rest)
  | cs => (false, cs)

/-- The digits of a fraction after the point. -/
def fraction (cs : List Char) : Option (List Char × List Char) :=
  match cs with
  | '.' :: rest => digitRow? 10 rest
  | _ => none

/-- The exponent after its letter. -/
def exponent (cs : List Char) : Option (Int × List Char) :=
  match cs with
  | e :: rest =>
    if e == 'e' || e == 'E' then
      let (negative, rest) := sign rest
      (digitRow? 10 rest).map fun p =>
        ((if negative then -(digitsValue 10 p.1 : Int) else digitsValue 10 p.1), p.2)
    else none
  | [] => none

/-- A number in base ten: a whole one whose digits are limited, or one with a fraction or an
    exponent.
    A zero ends the whole part. -/
def decimalNumber? (cs : List Char) : Option (Step Datum) :=
  let (negative, rest) := sign cs
  let whole :=
    match rest with
    | '0' :: rest => some (['0'], rest)
    | rest => digitRow? 10 rest
  whole.map fun (whole, rest) =>
    let frac := fraction rest
    let (digits, rest) := frac.getD ([], rest)
    let power := exponent rest
    let (power, rest') := power.getD (0, rest)
    if frac.isNone && (exponent rest).isNone then
      if digitLimit < whole.length then .error (.tooManyDigits whole.length)
      else
        let n : Int := digitsValue 10 whole
        .ok (.int (if negative then -n else n), rest)
    else
      let digitRow := digitsValue 10 (whole ++ digits)
      let value := Binary64.ofDecimal negative digitRow (power - digits.length)
      .ok (.float value, rest')

/-- The numbers that have a name, with or without a sign. -/
def namedNumber? (cs : List Char) : Option (Datum × List Char) :=
  let (negative, rest) := sign cs
  match rest with
  | 'i' :: 'n' :: 'f' :: rest => some (.float (.infinite negative), rest)
  | 'n' :: 'a' :: 'n' :: rest => some (.float .nan, rest)
  | _ => none

/-! ## Dates and times -/

/-- A number of two digits within bounds. -/
def twoDigits? (low high : Nat) (cs : List Char) : Option (Nat × List Char) :=
  match cs with
  | a :: b :: rest =>
    if isDigitOf 10 a && isDigitOf 10 b then
      let n := digitsValue 10 [a, b]
      if low ≤ n ∧ n ≤ high then some (n, rest) else none
    else none
  | _ => none

/-- What follows a single character. -/
def skipChar? (c : Char) (cs : List Char) : Option (List Char) :=
  match cs with
  | d :: rest => if c = d then some rest else none
  | [] => none

/-- A number with at least two digits. -/
def twoPlaces (n : Nat) : String := String.ofList (padZeros 2 (natChars n))

/-- A time of the day, with the millionths of a second. -/
structure TimeOfDay where
  hour : Nat
  minute : Nat
  second : Nat
  micros : Nat

/-- The international form of a time. -/
def TimeOfDay.text (t : TimeOfDay) : String :=
  twoPlaces t.hour ++ ":" ++ twoPlaces t.minute ++ ":" ++ twoPlaces t.second
    ++ (if t.micros = 0 then "" else "." ++ String.ofList (padZeros 6 (natChars t.micros)))

/-- The millionths after the point: six digits count, missing ones are zeros. -/
def micros (cs : List Char) : Nat × List Char :=
  match cs with
  | '.' :: rest =>
    let digits := rest.takeWhile (isDigitOf 10)
    if digits.isEmpty then (0, cs)
    else
      let first := digits.take 6
      (digitsValue 10 (first ++ List.replicate (6 - first.length) '0'),
        rest.dropWhile (isDigitOf 10))
  | cs => (0, cs)

/-- A time at the start of the text. -/
def timeOfDay? (cs : List Char) : Option (TimeOfDay × List Char) := do
  let (hour, cs) ← twoDigits? 0 23 cs
  let cs ← skipChar? ':' cs
  let (minute, cs) ← twoDigits? 0 59 cs
  let cs ← skipChar? ':' cs
  let (second, cs) ← twoDigits? 0 59 cs
  let (fractionOfSecond, cs) := micros cs
  pure (⟨hour, minute, second, fractionOfSecond⟩, cs)

/-- The international form of a distance from universal time, if the text starts with one. -/
def offset (cs : List Char) : String × List Char :=
  let signed (mark : String) (rest : List Char) : Option (String × List Char) := do
    let (hour, rest) ← twoDigits? 0 23 rest
    let rest ← skipChar? ':' rest
    let (minute, rest) ← twoDigits? 0 59 rest
    let mark := if hour = 0 ∧ minute = 0 then "+" else mark
    pure (mark ++ twoPlaces hour ++ ":" ++ twoPlaces minute, rest)
  match cs with
  | 'Z' :: rest => ("+00:00", rest)
  | 'z' :: rest => ("+00:00", rest)
  | '+' :: rest => (signed "+" rest).getD ("", cs)
  | '-' :: rest => (signed "-" rest).getD ("", cs)
  | cs => ("", cs)

/-- Every fourth year is a leap year, but of the full centuries only every fourth. -/
def isLeapYear (year : Nat) : Bool := year % 4 == 0 && (year % 100 != 0 || year % 400 == 0)

/-- The days of a month. -/
def daysOfMonth (year month : Nat) : Nat :=
  if month = 2 then if isLeapYear year then 29 else 28
  else if [4, 6, 9, 11].contains month then 30
  else 31

/-- A date in figures at the start of the text. -/
def dateFigures? (cs : List Char) : Option ((Nat × Nat × Nat) × List Char) := do
  let (century, cs) ← twoDigits? 0 99 cs
  let (year, cs) ← twoDigits? 0 99 cs
  let cs ← skipChar? '-' cs
  let (month, cs) ← twoDigits? 1 12 cs
  let cs ← skipChar? '-' cs
  let (day, cs) ← twoDigits? 1 31 cs
  pure ((century * 100 + year, month, day), cs)

/-- The time after a date and its mark. -/
def timeAfterDate? (cs : List Char) : Option (TimeOfDay × List Char) :=
  match cs with
  | c :: rest => if c == 'T' || c == 't' || c == ' ' then timeOfDay? rest else none
  | [] => none

/-- A date with or without a time.  A day that the calendar does not have makes the text malformed;
    the year zero is not in the calendar. -/
def date? (cs : List Char) : Option (Step Datum) :=
  (dateFigures? cs).map fun ((year, month, day), rest) =>
    if year = 0 ∨ daysOfMonth year month < day then .error .malformed
    else
      let date := String.ofList (padZeros 4 (natChars year)) ++ "-" ++ twoPlaces month ++ "-"
        ++ twoPlaces day
      match timeAfterDate? rest with
      | none => .ok (.moment .date date, rest)
      | some (time, rest) =>
        let (zone, rest) := offset rest
        .ok (.moment .dateAndTime (date ++ "T" ++ time.text ++ zone), rest)

/-! ## Scalars -/

/-- A number, a date or a time at the start of the text. -/
def scalar (cs : List Char) : Step Datum :=
  match date? cs with
  | some step => step
  | none =>
    match timeOfDay? cs with
    | some (time, rest) => .ok (.moment .time time.text, rest)
    | none =>
      match basedNumber? cs with
      | some p => .ok p
      | none =>
        match decimalNumber? cs with
        | some step => step
        | none =>
          match namedNumber? cs with
          | some p => .ok p
          | none => .error .malformed

end LintBroker.Toml
