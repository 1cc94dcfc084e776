/-
  LintBroker.Number.Numeral

  Numbers as programs of the system read them at the front of a text: blanks, a sign,
  then an infinity, something that is not a number, or hexadecimal or decimal digits with
  a point and an exponent.
-/
import LintBroker.Number.Rounded
import LintBroker.Number.Whole

namespace LintBroker.Number

/-- A number that was read: its value, whether it was lost to the bounds of the precision, and what
    follows it. -/
structure Numeral where
  value : Rounded
  lost : Bool := false
  rest : List Char

namespace Numeral

/-- A hexadecimal digit. -/
def isHexDigit (c : Char) : Bool :=
  c.isDigit || ('a' ≤ c && c ≤ 'f') || ('A' ≤ c && c ≤ 'F')

/-- What follows a word that is at the front of a text, in capitals or not. -/
def afterWord? (word : String) (cs : List Char) : Option (List Char) :=
  if (cs.take word.length).map Char.toLower = word.toList then some (cs.drop word.length) else none

/-- The exponent behind one of the letters, with its sign, and what follows it. -/
def exponent (letters : List Char) (cs : List Char) : Int × List Char :=
  match cs with
  | c :: rest =>
    if letters.contains c then
      let (negative, digits) := match rest with
        | '-' :: digits => (true, digits)
        | '+' :: digits => (false, digits)
        | _ => (false, rest)
      let row := digits.takeWhile Char.isDigit
      if row = [] then (0, cs)
      else
        let n : Int := digitsValue 10 row
        (if negative then -n else n, digits.drop row.length)
    else (0, cs)
  | [] => (0, cs)

/-- The digits of a number with a point: all of them, how many stand behind the point, and what
    follows; none if there is no digit. -/
def pointed? (isDigit : Char → Bool) (cs : List Char) : Option (List Char × Nat × List Char) :=
  let whole := cs.takeWhile isDigit
  let after := cs.drop whole.length
  match after with
  | '.' :: more =>
    let behind := more.takeWhile isDigit
    if whole = [] ∧ behind = [] then none
    else some (whole ++ behind, behind.length, more.drop behind.length)
  | _ => if whole = [] then none else some (whole, 0, after)

/-- Powers beyond this one are beyond all bounds. -/
def powerBound : Int := 200000

/-- The number `digits * base ^ power`, rounded. -/
def scaled (p : Precision) (negative : Bool) (base digits : Nat) (power : Int) (rest : List Char) :
    Numeral :=
  let made (r : Rounded × Bool) : Numeral := { value := r.1, lost := r.2, rest }
  if digits = 0 then made (.finite negative 0 p.least, false)
  else if powerBound < power then made (.infinite negative, true)
  else if power < -powerBound then made (.finite negative 0 p.least, true)
  else if 0 ≤ power then made (p.round negative (digits * Nat.pow base power.toNat) 1)
  else made (p.round negative digits (Nat.pow base (-power).toNat))

/-- The number behind the sign. -/
def unsigned? (p : Precision) (negative : Bool) (cs : List Char) : Option Numeral :=
  let hexadecimal? : Option Numeral :=
    match cs with
    | '0' :: x :: more =>
      if x = 'x' ∨ x = 'X' then
        (pointed? isHexDigit more).map fun (row, behind, after) =>
          let (power, rest) := exponent ['p', 'P'] after
          scaled p negative 2 (digitsValue 16 row) (power - 4 * behind) rest
      else none
    | _ => none
  let decimal? : Option Numeral :=
    (pointed? Char.isDigit cs).map fun (row, behind, after) =>
      let (power, rest) := exponent ['e', 'E'] after
      scaled p negative 10 (digitsValue 10 row) (power - behind) rest
  let word? : Option Numeral :=
    match afterWord? "infinity" cs, afterWord? "inf" cs, afterWord? "nan" cs with
    | some rest, _, _ => some { value := .infinite negative, rest }
    | none, some rest, _ => some { value := .infinite negative, rest }
    | none, none, some rest => some { value := .nan negative, rest := afterNote rest }
    | none, none, none => none
  hexadecimal?.orElse fun _ => decimal?.orElse fun _ => word?
where
  /-- What follows a note in brackets behind something that is not a number. -/
  afterNote (cs : List Char) : List Char :=
    match cs with
    | '(' :: more =>
      match more.dropWhile fun c => c.isAlphanum || c == '_' with
      | ')' :: rest => rest
      | _ => cs
    | _ => cs

/-- The number at the front of a text, if one is there. -/
def read? (p : Precision) (cs : List Char) : Option Numeral :=
  match cs.dropWhile isSpace with
  | '-' :: rest => unsigned? p true rest
  | '+' :: rest => unsigned? p false rest
  | rest => unsigned? p false rest

end Numeral

end LintBroker.Number
