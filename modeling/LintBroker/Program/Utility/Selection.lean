/-
  LintBroker.Program.Utility.Selection

  The utility that selects parts of lines: octets, or fields between separators, by their
  numbers.
-/
import LintBroker.Program.Utility.Repeats

namespace LintBroker.Program.Utility

open LintBroker.Files LintBroker.Number LintBroker.Text

/-! ## Ranges -/

/-- Numbers from a first one to a last one, if there is a last one. -/
structure NumberRange where
  first : Nat
  last : Option Nat
  deriving DecidableEq, Repr

/-- The number is in the range. -/
def NumberRange.holds (range : NumberRange) (n : Nat) : Bool :=
  range.first ≤ n && range.last.all (n ≤ ·)

/-- Ranges in ascending order, in which those that overlap are joined. -/
def joinRanges (ranges : List NumberRange) : List NumberRange :=
  let sorted := ranges.mergeSort fun x y => x.first ≤ y.first
  (sorted.foldl (fun joined range =>
    match joined with
    | last :: before =>
      if last.holds range.first then
        let upper := match last.last, range.last with
          | some n, some m => some (max n m)
          | _, _ => none
        { last with last := upper } :: before
      else range :: joined
    | [] => [range]) []).reverse

/-- The range that a part of a list writes; `fields` tells what is counted. -/
def numberRange (fields : Bool) (part : Octets) : Task NumberRange := do
  let wrong {α : Type} : Task α :=
    misuse ((if fields then "invalid field value " else "invalid byte/character position ").toList
      ++ quoted part)
  let number (digits : Octets) : Task Nat := do
    if !digits.all Char.isDigit then wrong
    let n := digitsValue 10 digits
    if digits ≠ [] ∧ n = 0 then
      misuse (if fields then "fields are numbered from 1"
        else "byte/character positions are numbered from 1").toList
    return n
  match splitAt '-' part with
  | [digits] =>
    if digits = [] then
      misuse (if fields then "fields are numbered from 1"
        else "byte/character positions are numbered from 1").toList
    let n ← number digits
    return ⟨n, some n⟩
  | [front, back] => do
    if front = [] ∧ back = [] then
      misuse "invalid range with no endpoint: -".toList
    let n ← if front = [] then pure 1 else number front
    if back = [] then return ⟨n, none⟩
    let m ← number back
    if m < n then misuse "invalid decreasing range".toList
    return ⟨n, some m⟩
  | _ => misuse (if fields then "invalid field range" else "invalid byte or character range").toList

/-- The ranges that a list writes. -/
def numberRanges (fields : Bool) (cs : Octets) : Task (List NumberRange) := do
  let parts := (splitAt ',' cs).flatMap fun part => (splitAt ' ' part).flatMap (splitAt '\t')
  return joinRanges (← parts.mapM (numberRange fields))

/-! ## Selecting -/

/-- How parts of lines are selected. -/
structure Selecting where
  ranges : List NumberRange := []
  fields : Bool := false
  complement : Bool := false
  separator : Char := '\t'
  /-- Lines without a separator are left out. -/
  separatedOnly : Bool := false
  between : Option Octets := none
  terminator : Char := '\n'

/-- The part with a number is selected. -/
def Selecting.selects (selecting : Selecting) (n : Nat) : Bool :=
  (selecting.ranges.any fun range => range.holds n) != selecting.complement

/-- The selected octets of a line, with a text between those that belong to different ranges. -/
def Selecting.octets (selecting : Selecting) (line : Octets) : Octets :=
  let between := selecting.between.getD []
  let (shown, _) := line.zipIdx.foldl (fun ((shown, last) : Octets × Option Nat) (c, i) =>
    let n := i + 1
    if selecting.selects n then
      let apart := match last with
        | none => false
        | some m => m + 1 < n ∨ (!selecting.complement ∧ selecting.ranges.any fun r => r.first == n)
      ((if apart then shown ++ between else shown) ++ [c], some n)
    else (shown, last)) ([], none)
  shown

/-- What is shown of a line; nothing if it is left out. -/
def Selecting.line? (selecting : Selecting) (line : Octets) : Option Octets :=
  if !selecting.fields then some (selecting.octets line)
  else
    let parts := splitAt selecting.separator line
    match parts with
    | [_] => if selecting.separatedOnly then none else some line
    | _ =>
      let selected := parts.zipIdx.filterMap fun (part, i) =>
        if selecting.selects (i + 1) then some part else none
      some ((selecting.between.getD [selecting.separator]).intercalate selected)

/-- Selects parts of the lines of files. -/
def selectParts : Utility := run 1 fun _ => do
  let start : Selecting × Option (Bool × Octets) × Bool := ({}, none, false)
  let ((selecting, list, separated), names) ← takeOptions
    [.valued 'b' "bytes", .valued 'c' "characters", .valued 'f' "fields", .valued 'd' "delimiter",
      .letterOnly 'n', .flag 's' "only-delimited", .flag 'z' "zero-terminated",
      .nameOnly "complement", { Choice.nameOnly "output-delimiter" with taking := .needed }]
    start fun (selecting, list, separated) key value => do
      match key with
      | "delimiter" =>
        match value with
        | [] => return ({ selecting with separator := '\x00' }, list, true)
        | [c] => return ({ selecting with separator := c }, list, true)
        | _ => misuse "the delimiter must be a single character".toList
      | "only-delimited" => return ({ selecting with separatedOnly := true }, list, separated)
      | "zero-terminated" => return ({ selecting with terminator := '\x00' }, list, separated)
      | "complement" => return ({ selecting with complement := true }, list, separated)
      | "output-delimiter" => return ({ selecting with between := some value }, list, separated)
      | "n" => return (selecting, list, separated)
      | _ =>
        if list.isSome then misuse "only one list may be specified".toList
        let fields := key = "fields"
        return ({ selecting with fields }, some (decide fields, value), separated)
  match list with
  | none => misuse "you must specify a list of bytes, characters, or fields".toList
  | some (fields, text) =>
    if separated ∧ !fields then
      misuse "an input delimiter may be specified only when operating on fields".toList
    if selecting.separatedOnly ∧ !fields then
      misuse ("suppressing non-delimited lines makes sense\n\tonly when operating on fields").toList
    let selecting := { selecting with ranges := ← numberRanges fields text }
    (inputsOf names).forM fun name => do
      match ← readFile name with
      | .error e => report (withReason (asWord name) e)
      | .ok text =>
        put ((bareLines selecting.terminator text).flatMap fun line =>
          ((selecting.line? line).map (· ++ [selecting.terminator])).getD [])

end LintBroker.Program.Utility
