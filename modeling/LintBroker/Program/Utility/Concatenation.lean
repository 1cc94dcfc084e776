/-
  LintBroker.Program.Utility.Concatenation

  The utility that writes the texts of files one after the other, with numbers for the lines
  and signs for what cannot be seen if that is asked for.
-/
import LintBroker.Program.Utility.Basic

namespace LintBroker.Program.Utility

open LintBroker.Files LintBroker.Number LintBroker.Text

/-! ## Showing texts -/

/-- How texts are shown. -/
structure Showing where
  numbered : Bool := false
  /-- Lines that are not empty are numbered, the others are not. -/
  numberedFull : Bool := false
  /-- Of several empty lines only one is shown. -/
  squeezed : Bool := false
  ends : Bool := false
  tabs : Bool := false
  controls : Bool := false
  deriving DecidableEq, Repr

/-- The texts are shown as they are. -/
def Showing.isPlain (showing : Showing) : Bool := showing == {}

/-- What was shown so far: how many lines were numbered, and how many ends of lines came last; none
    if something else did. -/
structure Shift where
  number : Nat := 0
  ends : Option Nat := some 0

/-- An octet below 128 as it is shown. -/
def shownControl (c : Char) : Octets :=
  if c.toNat < 0x20 then ['^', Char.ofNat (c.toNat + 0x40)]
  else if c.toNat = 0x7f then ['^', '?']
  else [c]

/-- An octet that is no end of a line as it is shown. -/
def Showing.octet (showing : Showing) (c : Char) : Octets :=
  if c = '\t' then (if showing.tabs then ['^', 'I'] else [c])
  else if !showing.controls then [c]
  else if c.toNat < 0x80 then shownControl c
  else 'M' :: '-' :: shownControl (Char.ofNat (c.toNat - 0x80))

/-- The number of the next line in front of it. -/
def lineNumber (n : Nat) : Octets :=
  let digits := natChars n
  List.replicate (6 - digits.length) ' ' ++ digits ++ ['\t']

/-- A text as it is shown behind others. -/
def Showing.text (showing : Showing) (shift : Shift) : Octets → Octets × Shift
  | [] => ([], shift)
  | c :: rest =>
    let numbers := shift.ends.isSome && (showing.numbered || showing.numberedFull)
    if c = '\n' then
      let ends := (shift.ends.map (· + 1)).getD 0
      if showing.squeezed ∧ 2 ≤ ends then
        showing.text { shift with ends := some 2 } rest
      else
        let shows := numbers && !showing.numberedFull
        let number := if shows then shift.number + 1 else shift.number
        let front := if shows then lineNumber number else []
        let (shown, after) := showing.text { number, ends := some ends } rest
        (front ++ (if showing.ends then ['$', c] else [c]) ++ shown, after)
    else
      let number := if numbers then shift.number + 1 else shift.number
      let front := if numbers then lineNumber number else []
      let octet :=
        if c = '\r' ∧ showing.ends ∧ rest.head? = some '\n' then ['^', 'M'] else showing.octet c
      let (shown, after) := showing.text { number, ends := none } rest
      (front ++ octet ++ shown, after)

/-- A text that is to be shown as it is stays so. -/
theorem Showing.text_plain (shift : Shift) (cs : Octets) :
    (({} : Showing).text shift cs).1 = cs := by
  induction cs generalizing shift with
  | nil => rfl
  | cons c rest ih => by_cases h : c = '\n' <;> simp [Showing.text, Showing.octet, h, ih]

/-! ## The utility -/

/-- Writes to the output, and ends if that fails. -/
def putNow (cs : Octets) : Task Unit := do
  let state ← get
  match state.call.write? 1 cs state.world with
  | .ok world => set { state with world }
  | .error e => fail (withReason "write error".toList e)

/-- The file at a name is the one that is written to, at a place behind what is there to read. -/
def isOutput (stream : Stream) : Task Bool := do
  let state ← get
  let output := (state.call.channels.lookup 1).bind fun n => state.world.streams[n]?
  return match stream, output with
    | .file input, some (.file output) =>
      input.place == output.place
        && input.position < (state.world.fileBytes input.place).length
    | _, _ => false

/-- The stream behind a name, the input if that is meant. -/
def streamOf (name : Octets) : Task (Except SystemError Stream) := do
  if namesInput name then
    let state ← get
    return match (state.call.channels.lookup 0).bind fun n => state.world.streams[n]? with
      | some stream => .ok stream
      | none => .error .badChannel
  else openFile name

/-- Writes a file as it is to be shown. -/
def concatenateFile (showing : Showing) (shift : Shift) (name : Octets) : Task Shift := do
  match ← streamOf name with
  | .error e => do
    report (withReason (asWord name) e)
    return shift
  | .ok stream =>
    if ← isOutput stream then
      report (asWord name ++ ": input file is output file".toList)
      return shift
    else
      match ← if namesInput name then readInput else readStream stream with
      | .error e => do
        report (withReason (asWord name) e)
        return shift
      | .ok text => do
        if showing.isPlain then
          putNow text
          return shift
        else
          let (shown, shift) := showing.text shift text
          putNow shown
          return shift

/-- What an option changes in how texts are shown. -/
def Showing.with (showing : Showing) (key : String) : Showing :=
  match key with
  | "show-all" => { showing with controls := true, ends := true, tabs := true }
  | "number-nonblank" => { showing with numberedFull := true }
  | "e" => { showing with controls := true, ends := true }
  | "show-ends" => { showing with ends := true }
  | "number" => { showing with numbered := true }
  | "squeeze-blank" => { showing with squeezed := true }
  | "t" => { showing with controls := true, tabs := true }
  | "show-tabs" => { showing with tabs := true }
  | "show-nonprinting" => { showing with controls := true }
  | _ => showing

/-- Complains about an input that is closed, at the end. -/
def checkInput (names : List Octets) : Task Unit := do
  let state ← get
  if names.any namesInput ∧ (state.call.channels.lookup 0).isNone then
    fail (withReason "closing standard input".toList .badChannel)

/-- Writes files, or the input. -/
def concatenate : Utility := run 1 fun _ => do
  let (showing, names) ← takeOptions
    [.flag 'A' "show-all", .flag 'b' "number-nonblank", .letterOnly 'e', .flag 'E' "show-ends",
      .flag 'n' "number", .flag 's' "squeeze-blank", .letterOnly 't', .flag 'T' "show-tabs",
      .letterOnly 'u', .flag 'v' "show-nonprinting"]
    ({} : Showing) fun showing key _ => return showing.with key
  if ((← get).call.channels.lookup 1).isNone then
    fail (withReason "standard output".toList .badChannel)
  let names := inputsOf names
  let _ ← names.foldlM (concatenateFile showing) {}
  checkInput names

end LintBroker.Program.Utility
