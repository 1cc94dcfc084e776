/-
  LintBroker.Number.Rounded

  Binary numbers of a chosen precision: a ratio is rounded to a mantissa of so many
  bits, a tie goes to the even one.  Below the least unit no bit is kept, and from some
  power of two on a number is infinite.
-/
import LintBroker.Number.Digits

namespace LintBroker.Number

/-- The bits of the mantissa, the power of two of the least unit, and the power of two from which on
    a number is infinite. -/
structure Precision where
  bits : Nat
  least : Int
  most : Int
  deriving DecidableEq, Repr

/-- Numbers of sixty-four bits. -/
def Precision.double : Precision := ⟨53, -1074, 1024⟩

/-- Numbers of eighty bits. -/
def Precision.extended : Precision := ⟨64, -16445, 16384⟩

/-- A binary number: not a number, an infinity, or a mantissa times a power of two. -/
inductive Rounded where
  | nan (negative : Bool)
  | infinite (negative : Bool)
  | finite (negative : Bool) (mantissa : Nat) (power : Int)
  deriving DecidableEq, Repr

/-- Two to a power, as a ratio with one. -/
def powerOfTwo (power : Int) : Nat × Nat :=
  if 0 ≤ power then (Nat.pow 2 power.toNat, 1) else (1, Nat.pow 2 (-power).toNat)

/-- The power of two that is at most the ratio, and more than half of it. -/
def leadingPower (num den : Nat) : Int :=
  let guess : Int := num.log2 - den.log2
  let (up, down) := powerOfTwo guess
  if den * up ≤ num * down then guess else guess - 1

namespace Precision

/-- The number nearest to a ratio, and whether it was lost to the bounds: it became infinite, or it
    was below the numbers with all bits and changed. -/
def round (p : Precision) (negative : Bool) (num den : Nat) : Rounded × Bool :=
  if num = 0 then (.finite negative 0 p.least, false)
  else
    let power := max (leadingPower num den - (p.bits - 1)) p.least
    let (up, down) := powerOfTwo power
    let mantissa := Magnitude.divideNearest (num * down) (den * up)
    let (mantissa, power) :=
      if mantissa = Nat.pow 2 p.bits then (Nat.pow 2 (p.bits - 1), power + 1) else (mantissa, power)
    let small := mantissa < Nat.pow 2 (p.bits - 1)
    let exact := mantissa * (den * up) == num * down
    if p.most < power + p.bits then (.infinite negative, true)
    else (.finite negative mantissa power, small && !exact)

end Precision

namespace Rounded

/-- The value of a mantissa times a power of two. -/
def ratioOf (mantissa : Nat) (power : Int) : Ratio :=
  if 0 ≤ power then .whole (mantissa * Nat.pow 2 power.toNat)
  else ⟨mantissa, Nat.pow 2 (-power).toNat, Nat.ne_of_gt (Nat.two_pow_pos _)⟩

/-- The value as a hexadecimal text: a digit of so many bits in front of the point, the digits that
    are needed or asked for behind it, and the power of two. -/
def hexadecimal (p : Precision) (leadingBits : Nat) (keepPoint : Bool) (places : Option Nat)
    (mantissa : Nat) (power : Int) : List Char :=
  let width := (p.bits - leadingBits + 3) / 4
  let shift := 4 * width + leadingBits - p.bits
  let lead := if mantissa = 0 then 0 else p.bits - 1 - mantissa.log2
  let full := mantissa * Nat.pow 2 (lead + shift)
  let power := if mantissa = 0 then 0 else power - lead + (p.bits - leadingBits : Nat)
  let digitsOf (n count : Nat) : List Char × List Char :=
    let digits := hexChars (count + 1) n
    digits.splitAt (digits.length - count)
  let (whole, behind) := match places with
    | none =>
      let (whole, behind) := digitsOf full width
      (whole, withoutTrailingZeros behind)
    | some n =>
      if width ≤ n then
        let (whole, behind) := digitsOf full width
        (whole, behind ++ List.replicate (n - width) '0')
      else digitsOf (Magnitude.divideNearest full (Nat.pow 16 (width - n))) n
  ['0', 'x'] ++ Ratio.joinPoint keepPoint whole behind ++ Ratio.exponentChars 'p' 1 power

end Rounded

end LintBroker.Number
