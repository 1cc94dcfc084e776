/-
  LintBroker.Number.Layout

  How a text or a number is written in a place of a format: flags, a least width and a
  precision.
-/
import LintBroker.Number.Rounded

namespace LintBroker.Number

/-- How a place is written. -/
structure Layout where
  minus : Bool := false
  plus : Bool := false
  blank : Bool := false
  sharp : Bool := false
  zero : Bool := false
  width : Nat := 0
  precision : Option Nat := none
  deriving DecidableEq, Repr

namespace Layout

/-! ## Flags -/

/-- The layout with a flag, if the character is one. -/
def withFlag? (layout : Layout) (c : Char) : Option Layout :=
  if c = '-' then some { layout with minus := true }
  else if c = '+' then some { layout with plus := true }
  else if c = ' ' then some { layout with blank := true }
  else if c = '#' then some { layout with sharp := true }
  else if c = '0' then some { layout with zero := true }
  else none

/-- The layout with all flags at the front of a text, and what follows them. -/
def withFlags (layout : Layout) : List Char → Layout × List Char
  | [] => (layout, [])
  | c :: rest =>
    match layout.withFlag? c with
    | some next => next.withFlags rest
    | none => (layout, c :: rest)

/-! ## Texts -/

/-- A text brought to the width. -/
def pad (layout : Layout) (cs : List Char) : List Char :=
  let gap := List.replicate (layout.width - cs.length) ' '
  if layout.minus then cs ++ gap else gap ++ cs

/-- A text cut off at the precision and brought to the width. -/
def text (layout : Layout) (cs : List Char) : List Char :=
  layout.pad ((layout.precision.map fun n => cs.take n).getD cs)

/-! ## Numbers -/

/-- The sign of a number. -/
def sign (layout : Layout) (negative : Bool) : List Char :=
  if negative then ['-'] else if layout.plus then ['+'] else if layout.blank then [' '] else []

/-- A front and digits brought to the width, by zeros between them if the flag says so. -/
def filled (layout : Layout) (front digits : List Char) : List Char :=
  if layout.zero && !layout.minus then front ++ padZeros (layout.width - front.length) digits
  else layout.pad (front ++ digits)

/-- A front and the digits of a whole number; a precision asks for so many digits. -/
def whole (layout : Layout) (front digits : List Char) : List Char :=
  match layout.precision with
  | some n => layout.pad (front ++ if n = 0 && digits == ['0'] then [] else padZeros n digits)
  | none => layout.filled front digits

/-- A whole number with a sign. -/
def signed (layout : Layout) (n : Int) : List Char :=
  layout.whole (layout.sign (n < 0)) (natChars n.natAbs)

/-- A whole number without a sign, in the base that the letter names. -/
def unsigned (layout : Layout) (letter : Char) (n : Nat) : List Char :=
  let base := if letter = 'o' then 8 else if letter = 'u' then 10 else 16
  let digits := Nat.toDigits base n
  let digits := if letter = 'X' then digits.map Char.toUpper else digits
  if letter = 'o' ∧ layout.sharp then
    let digits := if n = 0 then digits else '0' :: digits
    { layout with precision := layout.precision.map (max digits.length) }.whole [] digits
  else
    let front := if layout.sharp && n != 0 && base == 16 then ['0', letter] else []
    layout.whole front digits

/-- A binary number as the letter says: with an exponent, with fixed places, in whichever form is
    shorter, or in base sixteen. -/
def real (layout : Layout) (p : Precision) (letter : Char) (r : Rounded) : List Char :=
  let upper (cs : List Char) : List Char := if letter.isUpper then cs.map Char.toUpper else cs
  let places := layout.precision.getD 6
  match r with
  | .nan negative => layout.pad (upper (layout.sign negative ++ "nan".toList))
  | .infinite negative => layout.pad (upper (layout.sign negative ++ "inf".toList))
  | .finite negative mantissa power =>
    let ratio := Rounded.ratioOf mantissa power
    if letter.toLower = 'a' then
      let leadingBits := if p.bits = 64 then 4 else 1
      let digits :=
        Rounded.hexadecimal p leadingBits layout.sharp layout.precision mantissa power
      layout.filled (upper (layout.sign negative ++ digits.take 2)) (upper (digits.drop 2))
    else
      let digits :=
        if letter.toLower = 'f' then ratio.positional layout.sharp places
        else if letter.toLower = 'e' then ratio.scientific layout.sharp places
        else ratio.general layout.sharp places
      layout.filled (layout.sign negative) (upper digits)

/-- A text that is brought to a width has at least that length. -/
theorem width_le_length_pad (layout : Layout) (cs : List Char) :
    layout.width ≤ (layout.pad cs).length := by
  simp only [pad]
  split <;> simp <;> omega

end Layout

end LintBroker.Number
