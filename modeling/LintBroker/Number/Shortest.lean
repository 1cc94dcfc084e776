/-
  LintBroker.Number.Shortest

  The shortest decimal that reads back as a given binary number, and its text.
  On the grid of decimals with n digits only the two neighbours of the value need
  a test; the first grid with a hit wins, and of two hits the nearer one.
-/
import LintBroker.Number.Decimal
import LintBroker.Number.Binary64

namespace LintBroker.Number

/-! ## Digits -/

/-- The decimal `digits * 10 ^ exponent`. -/
structure Decimal where
  digits : Nat
  exponent : Int
  deriving DecidableEq, Repr

/-- The number that a decimal reads as. -/
def Decimal.read (d : Decimal) : Binary64 := .ofDecimal false d.digits d.exponent

/-- Where the decimal point of the ratio stands: the ratio is below ten to this power, and not
    below a tenth of that.  The search down ends where the power is above the lower number, since
    three bits hold less than a decimal digit. -/
def decimalPoint (num den : Nat) : Int :=
  if den ≤ num then (Nat.toDigits 10 (num / den)).length
  else
    match (List.range (den.log2 / 3 + 2)).find? fun k => den ≤ num * Nat.pow 10 k with
    | some k => 1 - (k : Int)
    | none => 0

/-- The nearer of the two neighbours of a magnitude among the decimals with the last place
    `exponent` that read back as it, a tie going to the even one. -/
def neighbour? (m : Magnitude) (exponent : Int) : Option Decimal :=
  -- The magnitude is `num / den` units of the last place.
  let num := if exponent < 0 then m.units * Nat.pow 10 (-exponent).toNat else m.units
  let den :=
    if exponent < 0 then Magnitude.unitsPerOne
    else Magnitude.unitsPerOne * Nat.pow 10 exponent.toNat
  let low : Decimal := ⟨num / den, exponent⟩
  let high : Decimal := ⟨num / den + 1, exponent⟩
  let near : Decimal := ⟨Magnitude.divideNearest num den, exponent⟩
  let readsBack (d : Decimal) : Bool := d.read == .finite false m
  if readsBack near then some near
  else if readsBack low then some low
  else if readsBack high then some high
  else none

/-- All digits of a magnitude: a half is five tenths, so a power of one half has an exact
    decimal. -/
def exactDecimal (m : Magnitude) : Decimal := ⟨m.units * Nat.pow 5 1074, -1074⟩

/-- The shortest decimal that reads back as the magnitude; no magnitude needs more than seventeen
    digits. -/
def shortest (m : Magnitude) : Decimal :=
  let point := decimalPoint m.units Magnitude.unitsPerOne
  let found := (List.range 17).findSome? fun n => neighbour? m (point - ((n : Nat) + 1 : Int))
  found.getD (exactDecimal m)

/-! ## Text -/

/-- How a binary number is written: in positional form when its decimal point lies within the two
    bounds, else with an exponent of at least `exponentWidth` digits. -/
structure FloatLayout where
  lowestPoint : Int
  highestPoint : Int
  exponentWidth : Nat
  notANumber : String
  infinity : String

/-- Positional from a ten-thousandth up to ten to the power sixteen. -/
def FloatLayout.plain : FloatLayout := ⟨-3, 16, 2, "nan", "inf"⟩

/-- The digits up to the last one that is not zero. -/
def withoutTrailingZeros (digits : List Char) : List Char :=
  (digits.reverse.dropWhile (· == '0')).reverse

/-- A row of digits and the place of the point after them, counted from the first digit. -/
def FloatLayout.place (layout : FloatLayout) (digits : List Char) (point : Int) : List Char :=
  if layout.lowestPoint ≤ point ∧ point ≤ layout.highestPoint then
    -- The point stands in front of all digits, behind all of them, or among them.
    if point ≤ 0 then '0' :: '.' :: (List.replicate (-point).toNat '0' ++ digits)
    else if digits.length ≤ point.toNat then
      digits ++ List.replicate (point.toNat - digits.length) '0' ++ ['.', '0']
    else digits.take point.toNat ++ '.' :: digits.drop point.toNat
  else
    let mantissa :=
      match digits with
      | d :: e :: rest => d :: '.' :: e :: rest
      | ds => ds
    let power := point - 1
    mantissa ++ 'e' :: (if power < 0 then '-' else '+')
      :: padZeros layout.exponentWidth (natChars power.natAbs)

/-- The characters of a magnitude. -/
def FloatLayout.magnitude (layout : FloatLayout) (m : Magnitude) : List Char :=
  if m.mantissa = 0 then ['0', '.', '0']
  else
    let d := shortest m
    let digits := natChars d.digits
    layout.place (withoutTrailingZeros digits) (digits.length + d.exponent)

/-- The characters of a number. -/
def FloatLayout.chars (layout : FloatLayout) : Binary64 → List Char
  | .nan => layout.notANumber.toList
  | .infinite negative => (if negative then ['-'] else []) ++ layout.infinity.toList
  | .finite negative m => (if negative then ['-'] else []) ++ layout.magnitude m

/-- The text of a number as messages show it. -/
def floatText (x : Binary64) : String := String.ofList (FloatLayout.plain.chars x)

end LintBroker.Number
