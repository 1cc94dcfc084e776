/-
  LintBroker.Number.Whole

  Whole numbers as programs of the system read them at the front of a text: blanks, a
  sign, and digits whose beginning gives their base.
-/
import LintBroker.Number.Decimal

namespace LintBroker.Number

/-- A blank of the ASCII range. -/
def isSpace (c : Char) : Bool := c == ' ' || ('\t' ≤ c && c ≤ '\r')

/-- A digit of a base of at most sixteen. -/
def isDigitOf (base : Nat) (c : Char) : Bool := (digitValue? c).any (· < base)

/-- The number at the front of a text, whose start gives its base, and what follows it. -/
def wholeNumber? (cs : List Char) : Option (Nat × List Char) :=
  let read (base : Nat) (digits rest : List Char) : Option (Nat × List Char) :=
    if digits = [] then none else some (digitsValue base digits, rest)
  match cs with
  | '0' :: x :: rest =>
    let digits := rest.takeWhile (isDigitOf 16)
    if (x = 'x' ∨ x = 'X') ∧ digits ≠ [] then read 16 digits (rest.drop digits.length)
    else
      let digits := cs.takeWhile (isDigitOf 8)
      read 8 digits (cs.drop digits.length)
  | _ =>
    let digits := cs.takeWhile Char.isDigit
    read 10 digits (cs.drop digits.length)

/-- The number at the front of a text behind blanks and a sign, and what follows it. -/
def signedNumber? (cs : List Char) : Option (Int × List Char) :=
  match cs.dropWhile isSpace with
  | '-' :: rest => (wholeNumber? rest).map fun (n, rest) => (-(n : Int), rest)
  | '+' :: rest => (wholeNumber? rest).map fun (n, rest) => ((n : Int), rest)
  | rest => (wholeNumber? rest).map fun (n, rest) => ((n : Int), rest)

/-- The greatest number of 64 bits. -/
def greatest : Int := Int.pow 2 63 - 1

/-- The least number of 64 bits. -/
def least : Int := -Int.pow 2 63

end LintBroker.Number
