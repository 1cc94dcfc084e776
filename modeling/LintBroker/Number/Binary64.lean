/-
  LintBroker.Number.Binary64

  Binary floating-point numbers of 64 bits as exact values.  A finite number is a
  mantissa times a power of two in units of the smallest positive number, so every
  question about it is one of natural numbers.  A ratio is rounded to the nearest
  such number, a tie goes to the even mantissa.
-/

namespace LintBroker.Number

/-- A finite magnitude `mantissa * 2 ^ exponent`, counted in units of two to the power -1074.
    The mantissa has its top bit set unless the exponent is zero, so a value has one magnitude. -/
structure Magnitude where
  mantissa : Nat
  exponent : Nat
  mantissa_lt : mantissa < Nat.pow 2 53
  normal : exponent = 0 ∨ Nat.pow 2 52 ≤ mantissa
  exponent_le : exponent ≤ 2045
  deriving DecidableEq

/-- A binary number: not a number, an infinity, or a finite value with its sign. -/
inductive Binary64 where
  | nan
  | infinite (negative : Bool)
  | finite (negative : Bool) (magnitude : Magnitude)
  deriving DecidableEq

/-! ## Magnitudes -/

namespace Magnitude

/-- The magnitude nothing. -/
def zero : Magnitude := ⟨0, 0, by decide, Or.inl rfl, by decide⟩

/-- The value in units of two to the power -1074. -/
def units (m : Magnitude) : Nat := m.mantissa * Nat.pow 2 m.exponent

/-- How many of those units make one. -/
def unitsPerOne : Nat := Nat.pow 2 1074

/-- The quotient, rounded to the nearest natural number; a tie goes to the even one. -/
def divideNearest (num den : Nat) : Nat :=
  let q := num / den
  let r := num % den
  if den < 2 * r || (2 * r == den && q % 2 == 1) then q + 1 else q

/-- The magnitude nearest to `num / den` units, or none when that lies beyond the largest.
    When rounding fills the mantissa up to the next power of two, the exponent grows by one. -/
def nearest? (num den : Nat) : Option Magnitude :=
  let e := (num / den).log2 - 52
  let m := divideNearest num (den * Nat.pow 2 e)
  if h : m < Nat.pow 2 53 ∧ (e = 0 ∨ Nat.pow 2 52 ≤ m) ∧ e ≤ 2045 then
    some ⟨m, e, h.1, h.2.1, h.2.2⟩
  else if h : e + 1 ≤ 2045 then some ⟨Nat.pow 2 52, e + 1, by decide, Or.inr (Nat.le_refl _), h⟩
  else none

end Magnitude

/-! ## Numbers -/

namespace Binary64

/-- The number nearest to the ratio of two natural numbers, with a sign. -/
def ofRatio (negative : Bool) (num den : Nat) : Binary64 :=
  match Magnitude.nearest? (Magnitude.unitsPerOne * num) den with
  | some m => .finite negative m
  | none => .infinite negative

/-- The number nearest to `digits * 10 ^ exponent`.  Values that are beyond every finite number,
    or nearer to zero than to any other number, are told by the count of digits. -/
def ofDecimal (negative : Bool) (digits : Nat) (exponent : Int) : Binary64 :=
  if digits = 0 then .finite negative .zero
  else
    let point := ((Nat.toDigits 10 digits).length : Int) + exponent
    if 310 < point then .infinite negative
    else if point < -330 then .finite negative .zero
    else if 0 ≤ exponent then ofRatio negative (digits * Nat.pow 10 exponent.toNat) 1
    else ofRatio negative digits (Nat.pow 10 (-exponent).toNat)

/-- The number nearest to an integer, unless that is beyond every finite number. -/
def ofInt? (n : Int) : Option Binary64 :=
  match ofRatio (n < 0) n.natAbs 1 with
  | .finite negative m => some (.finite (negative && m.mantissa != 0) m)
  | _ => none

/-- Greater than zero; not a number is not. -/
def positive : Binary64 → Bool
  | .nan => false
  | .infinite negative => !negative
  | .finite negative m => !negative && m.mantissa != 0

/-- At most zero; not a number is not. -/
def nonpositive : Binary64 → Bool
  | .nan => false
  | .infinite negative => negative
  | .finite negative m => negative || m.mantissa == 0

/-- The greatest integer that is not above a finite number. -/
def floor? : Binary64 → Option Int
  | .finite false m => some (m.units / Magnitude.unitsPerOne : Nat)
  | .finite true m => some (-((m.units + Magnitude.unitsPerOne - 1) / Magnitude.unitsPerOne : Nat))
  | _ => none

/-- The number equals the integer. -/
def equalsInt (x : Binary64) (n : Int) : Bool :=
  match x with
  | .finite negative m =>
    m.units == Magnitude.unitsPerOne * n.natAbs && (n == 0 || negative == decide (n < 0))
  | _ => false

end Binary64

end LintBroker.Number
