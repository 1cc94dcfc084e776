/-
  LintBroker.Number.Decimal

  Whole numbers in decimal and hexadecimal writing, and the limit on the digits
  of a decimal text that is turned into a number.
-/

namespace LintBroker.Number

/-! ## Writing -/

/-- The decimal digits of a natural number, without leading zeros. -/
def natChars (n : Nat) : List Char := Nat.toDigits 10 n

/-- The decimal text of a natural number. -/
def natText (n : Nat) : String := String.ofList (natChars n)

/-- The decimal digits of an integer, after a minus sign when it is negative. -/
def intChars : Int → List Char
  | .ofNat n => natChars n
  | .negSucc n => '-' :: natChars (n + 1)

/-- The decimal text of an integer. -/
def intText (n : Int) : String := String.ofList (intChars n)

/-- Zeros in front of `cs` up to `width` characters. -/
def padZeros (width : Nat) (cs : List Char) : List Char :=
  List.replicate (width - cs.length) '0' ++ cs

/-- At least `width` lower case hexadecimal digits. -/
def hexChars (width n : Nat) : List Char := padZeros width (Nat.toDigits 16 n)

/-! ## Reading -/

/-- The value of an ASCII digit in any base up to thirty-six. -/
def digitValue? (c : Char) : Option Nat :=
  if '0' ≤ c ∧ c ≤ '9' then some (c.toNat - '0'.toNat)
  else if 'a' ≤ c ∧ c ≤ 'z' then some (c.toNat - 'a'.toNat + 10)
  else if 'A' ≤ c ∧ c ≤ 'Z' then some (c.toNat - 'A'.toNat + 10)
  else none

/-- The number that a row of digits writes in `base`; other characters count as zero. -/
def digitsValue (base : Nat) (cs : List Char) : Nat :=
  cs.foldl (fun n c => base * n + (digitValue? c).getD 0) 0

/-! ## The limit -/

/-- The most decimal digits that are turned into a number. -/
def digitLimit : Nat := 4300

/-- The complaint about a decimal text of `count` digits, more than the limit. -/
def digitLimitMessage (count : Nat) : String :=
  "Exceeds the limit (" ++ natText digitLimit
    ++ " digits) for integer string conversion: value has " ++ natText count
    ++ " digits; use sys.set_int_max_str_digits() to increase the limit"

end LintBroker.Number
