/-
  LintBroker.Program.Utility.Sequence

  The utility that writes rows of numbers.
-/
import LintBroker.Number.Layout
import LintBroker.Number.Numeral
import LintBroker.Program.Utility.Names

namespace LintBroker.Program.Utility

open LintBroker.Files LintBroker.Number LintBroker.Text

/-! ## Numbers with places -/

/-- A decimal number: a whole number of units of which ten to a power make one. -/
structure Placed where
  units : Int
  places : Nat

/-- The number with more places. -/
def Placed.unitsAt (x : Placed) (places : Nat) : Int := x.units * Int.pow 10 (places - x.places)

/-- The decimal number that a text writes. -/
def placed? (cs : Octets) : Option Placed := do
  let cs := cs.dropWhile isSpace
  let (negative, cs) := match cs with
    | '-' :: rest => (true, rest)
    | '+' :: rest => (false, rest)
    | _ => (false, cs)
  let (digits, behind, rest) ← Numeral.pointed? Char.isDigit cs
  let (power, rest) := Numeral.exponent ['e', 'E'] rest
  if rest ≠ [] ∨ 1000 < power.natAbs then none
  else
    let n : Int := digitsValue 10 digits
    let n := if negative then -n else n
    let places : Int := behind - power
    some (if places < 0 then ⟨n * Int.pow 10 places.natAbs, 0⟩ else ⟨n, places.toNat⟩)

/-- The digits of a number of units with so many places. -/
def placedText (places : Nat) (units : Int) : Octets :=
  let digits := padZeros (places + 1) (natChars units.natAbs)
  let (whole, behind) := digits.splitAt (digits.length - places)
  (if units < 0 then ['-'] else []) ++ Ratio.joinPoint false whole behind

/-- The numbers from one to another by a step, as whole numbers of units. -/
def steps (first step last : Int) : List Int :=
  let count := (last - first).fdiv step + 1
  (List.range count.toNat).map fun (n : Nat) => first + step * n

/-! ## The utility -/

/-- How a row of numbers is written. -/
structure RowStyle where
  separator : Octets := ['\n']
  equalWidth : Bool := false
  format : Option Octets := none

/-- A format of a single number: what is in front, the layout, the letter, and what is behind. -/
structure NumberFormat where
  front : Octets
  layout : Layout
  letter : Char
  behind : Octets

/-- The text of a format up to its place, with doubled percent signs as single ones; and the
    place. -/
def plainFormat : Octets → Octets × Octets
  | '%' :: '%' :: rest =>
    let (text, place) := plainFormat rest
    ('%' :: text, place)
  | '%' :: rest => ([], '%' :: rest)
  | c :: rest =>
    let (text, place) := plainFormat rest
    (c :: text, place)
  | [] => ([], [])

/-- The format that a text writes. -/
def numberFormat (cs : Octets) : Task NumberFormat := do
  let about (message : Octets) : Octets := "format ".toList ++ quoted cs ++ ' ' :: message
  let (front, place) := plainFormat cs
  match place with
  | [] => fail (about "has no % directive".toList)
  | _ :: rest =>
    let flags := rest.takeWhile "-+#0 '".toList.contains
    let layout := flags.foldl (fun layout c => (layout.withFlag? c).getD layout) ({} : Layout)
    let after := rest.drop flags.length
    let width := after.takeWhile Char.isDigit
    let after := after.drop width.length
    let (precision, after) := match after with
      | '.' :: after =>
        let digits := after.takeWhile Char.isDigit
        (some (digitsValue 10 digits), after.drop digits.length)
      | _ => (none, after)
    let after := if after.head? = some 'L' then after.drop 1 else after
    match after with
    | [] => fail (about "ends in %".toList)
    | letter :: after =>
      if !"efgaEFGA".toList.contains letter then
        fail (about ("has unknown %".toList ++ letter :: " directive".toList))
      let (behind, more) := plainFormat after
      if more ≠ [] then fail (about "has too many % directives".toList)
      return { front, behind, letter
               layout := { layout with width := digitsValue 10 width, precision } }

/-- A number of units with so many places in a format. -/
def NumberFormat.text (format : NumberFormat) (places : Nat) (units : Int) : Octets :=
  let value := (Precision.extended.round (units < 0) units.natAbs (Nat.pow 10 places)).1
  format.front ++ format.layout.real .extended format.letter value ++ format.behind

/-- The words that are options: those in front of the first one that is a number below zero. -/
def beforeNumber (words : List Octets) : List Octets :=
  words.takeWhile fun
    | '-' :: c :: _ => !(c.isDigit || c == '.')
    | _ => true

/-- Writes a row of numbers. -/
def sequence : Utility := run 1 fun _ => do
  let words ← operands
  let optional := beforeNumber words
  let choices : List Choice :=
    [.valued 'f' "format", .valued 's' "separator", .flag 'w' "equal-width"]
  let (chosen, rest) := readChosen (choices ++ standardChoices) false "" none optional
  let style ← takeChosen (fun (style : RowStyle) key value => return match key with
    | "format" => { style with format := some value }
    | "separator" => { style with separator := value }
    | _ => { style with equalWidth := true }) {} chosen
  let operands := rest ++ words.drop optional.length
  let number (cs : Octets) : Task Placed :=
    match placed? cs with
    | some x => return x
    | none => misuse ("invalid floating point argument: ".toList ++ quoted cs)
  let one : Placed := ⟨1, 0⟩
  let (first, step, last) ← match operands with
    | [] => missingOperand
    | [last] => pure (one, one, ← number last)
    | [first, last] => do
      let first ← number first
      pure (first, one, ← number last)
    | [first, step, last] => do
      let first ← number first
      let increment ← number step
      if increment.units = 0 then
        misuse ("invalid Zero increment value: ".toList ++ quoted step)
      pure (first, increment, ← number last)
    | _ :: _ :: _ :: extra :: _ => extraOperand extra
  let format ← match style.format with
    | some cs => do pure (some (← numberFormat cs))
    | none => pure none
  if format.isSome ∧ style.equalWidth then
    misuse "format string may not be specified when printing equal width strings".toList
  let places := max (max first.places step.places) last.places
  let shown := max first.places step.places
  let scale := Int.pow 10 (places - shown)
  let all := steps (first.unitsAt places) (step.unitsAt places) (last.unitsAt places)
  let plain (units : Int) : Octets := placedText shown (units / scale)
  let ends := [first.unitsAt places, last.unitsAt places - last.unitsAt places % scale].map plain
  let width := if style.equalWidth then (ends.map List.length).foldl max 0 else 0
  let text (units : Int) : Octets :=
    match format with
    | some format => format.text shown (units / scale)
    | none =>
      let cs := plain units
      if cs.head? = some '-' then '-' :: padZeros (width - 1) (cs.drop 1) else padZeros width cs
  if !all.isEmpty then
    putLine (style.separator.intercalate (all.map text))

end LintBroker.Program.Utility
