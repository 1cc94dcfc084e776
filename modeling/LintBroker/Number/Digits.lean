/-
  LintBroker.Number.Digits

  The decimal digits of a ratio of two natural numbers: so many places behind the
  point, or so many leading digits with a power of ten.  The last digit is rounded to
  the nearest one, a tie goes to the even one.
-/
import LintBroker.Number.Shortest

namespace LintBroker.Number

/-- A ratio of two natural numbers; the lower one is not zero. -/
structure Ratio where
  num : Nat
  den : Nat
  den_ne_zero : den ≠ 0 := by decide
  deriving DecidableEq

/-- One has at least one unit. -/
theorem Magnitude.unitsPerOne_ne_zero : Magnitude.unitsPerOne ≠ 0 := by
  unfold Magnitude.unitsPerOne
  -- With a number for the exponent, the power would be evaluated.
  generalize 1074 = n
  exact Nat.ne_of_gt (Nat.two_pow_pos n)

/-- The value of a magnitude. -/
def Magnitude.ratio (m : Magnitude) : Ratio :=
  ⟨m.units, Magnitude.unitsPerOne, Magnitude.unitsPerOne_ne_zero⟩

namespace Ratio

/-- A natural number as a ratio. -/
def whole (n : Nat) : Ratio := ⟨n, 1, by decide⟩

/-- The whole digits and the digits behind the point.  Without the latter there is a point only if
    it is kept. -/
def joinPoint (keepPoint : Bool) (whole behind : List Char) : List Char :=
  if behind.isEmpty && !keepPoint then whole else whole ++ '.' :: behind

/-- The digits with a fixed count of places: those before the point and those behind. -/
def fixedDigits (r : Ratio) (places : Nat) : List Char × List Char :=
  let n := Magnitude.divideNearest (r.num * Nat.pow 10 places) r.den
  let digits := padZeros (places + 1) (natChars n)
  digits.splitAt (digits.length - places)

/-- The leading digits, `count` of them, and the power of ten of the first one. -/
def leadingDigits (r : Ratio) (count : Nat) : List Char × Int :=
  if r.num = 0 then (List.replicate count '0', 0)
  else
    let point := decimalPoint r.num r.den
    let places : Int := count - point
    let num := if 0 ≤ places then r.num * Nat.pow 10 places.toNat else r.num
    let den := if 0 ≤ places then r.den else r.den * Nat.pow 10 (-places).toNat
    let digits := natChars (Magnitude.divideNearest num den)
    if count < digits.length then (digits.take count, point) else (digits, point - 1)

/-- A power as an exponent behind a letter, of at least so many digits. -/
def exponentChars (letter : Char) (width : Nat) (power : Int) : List Char :=
  letter :: (if power < 0 then '-' else '+') :: padZeros width (natChars power.natAbs)

/-- The digits in positional form with so many places. -/
def positional (keepPoint : Bool) (r : Ratio) (places : Nat) : List Char :=
  let (whole, behind) := r.fixedDigits places
  joinPoint keepPoint whole behind

/-- The digits with an exponent: one before the point and so many behind. -/
def scientific (keepPoint : Bool) (r : Ratio) (places : Nat) : List Char :=
  let (digits, power) := r.leadingDigits (places + 1)
  joinPoint keepPoint (digits.take 1) (digits.drop 1) ++ exponentChars 'e' 2 power

/-- So many leading digits, in positional form unless the value is very large or small.  Zeros at
    the end behind the point are left out, unless the point is kept. -/
def general (keepPoint : Bool) (r : Ratio) (count : Nat) : List Char :=
  let count := max count 1
  let shorten (behind : List Char) := if keepPoint then behind else withoutTrailingZeros behind
  let (digits, power) := r.leadingDigits count
  if power < -4 ∨ count ≤ power then
    joinPoint keepPoint (digits.take 1) (shorten (digits.drop 1)) ++ exponentChars 'e' 2 power
  else
    let (whole, behind) := r.fixedDigits (count - 1 - power).toNat
    joinPoint keepPoint whole (shorten behind)

/-- The digits behind the point are as many as asked for. -/
theorem length_fixedDigits_snd (r : Ratio) (places : Nat) :
    (r.fixedDigits places).2.length = places := by
  simp only [fixedDigits, List.splitAt_eq, List.length_drop, padZeros, List.length_append,
    List.length_replicate]
  omega

end Ratio

end LintBroker.Number
