/-
  LintBroker.Program.Utility.Repeats

  The utility that joins lines that are repeated, and the one that writes lines in reverse.
-/
import LintBroker.Program.Utility.Sorting

namespace LintBroker.Program.Utility

open LintBroker.Files LintBroker.Number LintBroker.Text

/-! ## Repeated lines -/

/-- Which lines are shown, and what of them is compared. -/
structure Repetition where
  counted : Bool := false
  repeatedOnly : Bool := false
  singleOnly : Bool := false
  /-- All lines that are repeated are shown. -/
  all : Bool := false
  folded : Bool := false
  fieldsSkipped : Nat := 0
  skipped : Nat := 0
  width : Option Nat := none
  terminator : Char := '\n'

/-- What is compared of a line. -/
def Repetition.seen (repetition : Repetition) (line : Octets) : Octets :=
  let rest := (behindFields none repetition.fieldsSkipped line).drop repetition.skipped
  let rest := (repetition.width.map fun n => rest.take n).getD rest
  if repetition.folded then rest.map Char.toLower else rest

/-- Rows of lines that are equal in what is compared. -/
def Repetition.groups (repetition : Repetition) : List Octets → List (List Octets)
  | [] => []
  | line :: rest =>
    match repetition.groups rest with
    | (other :: others) :: groups =>
      if repetition.seen line = repetition.seen other then (line :: other :: others) :: groups
      else [line] :: (other :: others) :: groups
    | _ => [[line]]

/-- The rows of lines make up the lines. -/
theorem Repetition.flatten_groups (repetition : Repetition) (lines : List Octets) :
    (repetition.groups lines).flatten = lines := by
  induction lines with
  | nil => rfl
  | cons line rest ih =>
    simp only [groups]
    split
    · rename_i other others groups h
      rw [h] at ih
      split <;> simp_all
    · rename_i h
      cases rest with
      | nil => rfl
      | cons other others =>
        exfalso
        simp only [groups] at h
        split at h
        · split at h <;> exact h _ _ _ rfl
        · exact h _ _ _ rfl

/-- What is shown of equal lines. -/
def Repetition.shown (repetition : Repetition) (group : List Octets) : List Octets :=
  let n := group.length
  if repetition.all then (if 1 < n then group else [])
  else if (repetition.repeatedOnly && n == 1) || (repetition.singleOnly && n != 1) then []
  else
    let digits := natChars n
    let front :=
      if repetition.counted then List.replicate (7 - digits.length) ' ' ++ digits ++ [' '] else []
    group.take 1 |>.map (front ++ ·)

/-- The number that an argument writes. -/
def plainCount (what : String) (cs : Octets) : Task Nat := do
  if cs ≠ [] ∧ cs.all Char.isDigit then return digitsValue 10 cs
  else fail (cs ++ ": invalid number of ".toList ++ what.toList)

/-- What an option changes. -/
def Repetition.with (repetition : Repetition) (key : String) (value : Octets) :
    Task Repetition := do
  match key with
  | "count" => return { repetition with counted := true }
  | "repeated" => return { repetition with repeatedOnly := true }
  | "unique" => return { repetition with singleOnly := true }
  | "all-repeated" => return { repetition with all := true }
  | "ignore-case" => return { repetition with folded := true }
  | "skip-fields" =>
    return { repetition with fieldsSkipped := ← plainCount "fields to skip" value }
  | "skip-chars" => return { repetition with skipped := ← plainCount "bytes to skip" value }
  | "check-chars" =>
    return { repetition with width := some (← plainCount "bytes to compare" value) }
  | "zero-terminated" => return { repetition with terminator := '\x00' }
  | _ => return repetition

/-- Joins lines that are repeated. -/
def joinRepeats : Utility := run 1 fun _ => do
  let (repetition, names) ← takeOptions
    [.flag 'c' "count", .flag 'd' "repeated", .flag 'u' "unique", .letterOnly 'D',
      { Choice.nameOnly "all-repeated" with taking := .possible }, .flag 'i' "ignore-case",
      .valued 'f' "skip-fields", .valued 's' "skip-chars", .valued 'w' "check-chars",
      .flag 'z' "zero-terminated"]
    ({} : Repetition) fun repetition key value =>
      repetition.with (if key = "D" then "all-repeated" else key) value
  if let extra :: _ := names.drop 2 then extraOperand extra
  if repetition.counted ∧ repetition.all then
    misuse "printing all duplicated lines and repeat counts is meaningless".toList
  let name := names.head?.getD ['-']
  match ← readFile name with
  | .error e =>
    let reading := (← streamOf name).isOk
    let front := if reading then "error reading ".toList ++ inQuotes name else asWord name
    fail (withReason front e)
  | .ok text =>
    let groups := repetition.groups (bareLines repetition.terminator text)
    let shown :=
      (groups.flatMap repetition.shown).flatMap fun line => line ++ [repetition.terminator]
    match names.drop 1 with
    | [] => put shown
    | path :: _ =>
      match ← openForWriting .emptying path with
      | .error e => fail (withReason (asWord path) e)
      | .ok n =>
        match (← get).world.write n shown with
        | .ok world => modifyWorld fun _ => world
        | .error e => fail (withReason "write error".toList e)

/-! ## Lines in reverse -/

/-- Writes the lines of files, the last one first. -/
def reverseLines : Utility := run 1 fun _ => do
  let (_, names) ← takeOptions
    [.flag 'b' "before", .flag 'r' "regex", .valued 's' "separator"] () fun s _ _ => return s
  (inputsOf names).forM fun name => do
    match ← streamOf name with
    | .error e =>
      let front := "failed to open ".toList ++ inQuotes name ++ " for reading".toList
      report (withReason front e)
    | .ok stream =>
      match ← if namesInput name then readInput else readStream stream with
      | .error e =>
        let e := if e = .isDirectory then SystemError.invalid else e
        report (withReason (asWord name ++ ": read error".toList) e)
      | .ok text => put (linesWith '\n' text).reverse.flatten

end LintBroker.Program.Utility
