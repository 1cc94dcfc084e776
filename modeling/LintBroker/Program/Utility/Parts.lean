/-
  LintBroker.Program.Utility.Parts

  The utilities that write the first or the last part of texts, counted in lines or in
  octets.
-/
import LintBroker.Number.Whole
import LintBroker.Program.Utility.Concatenation

namespace LintBroker.Program.Utility

open LintBroker.Files LintBroker.Number LintBroker.Text

/-! ## Counts -/

/-- The powers of a unit by their letters. -/
def unitPowers : List (Char × Nat) :=
  [('K', 1), ('k', 1), ('M', 2), ('m', 2), ('G', 3), ('T', 4), ('P', 5), ('E', 6), ('Z', 7),
    ('Y', 8)]

/-- The number that a unit behind a count stands for. -/
def unitSize? (cs : Octets) : Option Nat :=
  match cs with
  | [] => some 1
  | ['b'] => some 512
  | c :: rest =>
    match unitPowers.lookup c with
    | none => none
    | some power =>
      if rest = [] ∨ rest = ['i', 'B'] then some (Nat.pow 1024 power)
      else if rest = ['B'] then some (Nat.pow 1000 power)
      else none

/-- The count that an argument writes, which may have a unit; complains if it does not or if it is
    too great. -/
def countArgument (what : String) (cs : Octets) : Task Nat := do
  let complaint := "invalid number of ".toList ++ what.toList ++ ": ".toList ++ quoted cs
  let behindBlanks := cs.dropWhile isSpace
  let digitsOn := if behindBlanks.head? = some '+' then behindBlanks.drop 1 else behindBlanks
  let digits := digitsOn.takeWhile Char.isDigit
  let rest := digitsOn.drop digits.length
  match unitSize? rest with
  | none => fail complaint
  | some size =>
    -- A unit alone counts one of its kind, unless something stands in front of it.
    if digits = [] ∧ (rest = [] ∨ digitsOn ≠ cs) then fail complaint
    else
      let n := (if digits = [] then 1 else digitsValue 10 digits) * size
      if Nat.pow 2 64 ≤ n then fail (withReason complaint .tooLarge) else return n

/-! ## Cutting -/

/-- How texts are cut: counted in lines or in octets, so many at the one end or all but so many at
    the other, with names in front of them, and by the character that ends lines. -/
structure Cut where
  byLines : Bool := true
  count : Nat := 10
  /-- The count is that of what is left out at the other end. -/
  others : Bool := false
  named : Option Bool := none
  terminator : Char := '\n'
  /-- The end of the text is waited for. -/
  following : Bool := false

/-- The lines of a text with what ends them. -/
def linesWith (terminator : Char) : Octets → List Octets
  | [] => []
  | c :: rest =>
    if c = terminator then [c] :: linesWith terminator rest
    else
      match linesWith terminator rest with
      | [] => [[c]]
      | line :: lines => (c :: line) :: lines

/-- The lines of a text make it up. -/
theorem flatten_linesWith (terminator : Char) (cs : Octets) :
    (linesWith terminator cs).flatten = cs := by
  induction cs with
  | nil => rfl
  | cons c rest ih =>
    simp only [linesWith]
    split
    · simp [ih]
    · split <;> simp_all

/-- A text cut behind its first lines or octets. -/
def Cut.split (cut : Cut) (count : Nat) (cs : Octets) : Octets × Octets :=
  if cut.byLines then
    let (front, rest) := (linesWith cut.terminator cs).splitAt count
    (front.flatten, rest.flatten)
  else cs.splitAt count

/-- The lines or octets of a text. -/
def Cut.length (cut : Cut) (cs : Octets) : Nat :=
  if cut.byLines then (linesWith cut.terminator cs).length else cs.length

/-- The first part of a text, and the rest. -/
def Cut.front (cut : Cut) (cs : Octets) : Octets × Octets :=
  cut.split (if cut.others then cut.length cs - cut.count else cut.count) cs

/-- The last part of a text. -/
def Cut.back (cut : Cut) (cs : Octets) : Octets :=
  (cut.split (if cut.others then cut.count - 1 else cut.length cs - cut.count) cs).2

/-- What is read from an input without a position at a time. -/
def blockSize : Nat := 8192

/-- Writes the name of a file in front of its text, with an empty line if it is not the first
    one. -/
def putName (first : Bool) (name : Octets) : Task Unit := do
  let shown := if namesInput name then "standard input".toList else name
  put ((if first then [] else ['\n']) ++ "==> ".toList ++ shown ++ " <==\n".toList)

/-- The name of a file in a complaint. -/
def nameInComplaint (name : Octets) : Octets :=
  inQuotes (if namesInput name then "standard input".toList else name)

/-- Leaves the part of the input to other programs that was not used.  An input without a position
    is used in blocks when lines are counted. -/
def leaveRest (cut : Cut) (used rest : Octets) : Task Unit :=
  modify fun state =>
    let n := (state.call.channels.lookup 0).getD 0
    let rest :=
      if state.world.hasPosition n ∨ (!cut.byLines ∧ !cut.others) then rest
      else if cut.others then []
      -- Nothing is read for no lines at all.
      else if cut.byLines ∧ cut.count = 0 then rest
      else
        -- What was read ends with the block that the last line ends in.
        let taken := (used.length + blockSize - 1) / blockSize * blockSize
        rest.drop (max taken blockSize - used.length)
    { state with world := state.call.leave 0 rest state.world }

/-- Writes the part of a text that is asked for, given its name. -/
def putPart (cut : Cut) (part : Octets → Octets × Octets) (named : Bool) (first : Bool)
    (name : Octets) : Task Bool := do
  match ← streamOf name with
  | .error e =>
    if namesInput name then
      report (withReason ("error reading ".toList ++ nameInComplaint name) e)
      report (withReason name e)
    else
      report (withReason ("cannot open ".toList ++ nameInComplaint name ++ " for reading".toList) e)
    return first
  | .ok stream =>
    if named then putName first name
    let state ← get
    let text :=
      if namesInput name then state.call.unread 0 state.world
      else
        let (n, world) := state.world.withStream stream
        world.unread n
    match text with
    | .error e => do
      if cut.count ≠ 0 ∨ cut.others then
        report (withReason ("error reading ".toList ++ nameInComplaint name) e)
    | .ok text => do
      let (shown, rest) := part text
      put shown
      if namesInput name then leaveRest cut shown rest
    return false

/-- Writes parts of the texts of files. -/
def putParts (cut : Cut) (part : Octets → Octets × Octets) (names : List Octets) : Task Unit := do
  let names := inputsOf names
  let named := cut.named.getD (1 < names.length)
  let _ ← names.foldlM (putPart cut part named) true

/-! ## Old options -/

/-- The options in a word of a dash and a number, with letters behind them. -/
def oldFront (digits : Octets) : Cut → Octets → Task Cut
  | cut, [] => do
    return { cut with count := ← countArgument (if cut.byLines then "lines" else "bytes") digits }
  | cut, c :: rest =>
    match c with
    | 'c' => oldFront digits { cut with byLines := false } rest
    | 'b' => oldFront (digits ++ ['b']) { cut with byLines := false } rest
    | 'k' => oldFront (digits ++ ['k']) { cut with byLines := false } rest
    | 'm' => oldFront (digits ++ ['m']) { cut with byLines := false } rest
    | 'l' => oldFront digits { cut with byLines := true } rest
    | 'q' => oldFront digits { cut with named := some false } rest
    | 'v' => oldFront digits { cut with named := some true } rest
    | 'z' => oldFront digits { cut with terminator := '\x00' } rest
    | _ => misuse ("invalid trailing option -- ".toList ++ [c])

/-- The cut that the first argument asks for if it is a dash with a number; and the others. -/
def takeOldFront (args : List Octets) : Task (Cut × List Octets) := do
  match args with
  | ('-' :: c :: cs) :: rest =>
    if c.isDigit then
      let digits := (c :: cs).takeWhile Char.isDigit
      return (← oldFront digits {} ((c :: cs).drop digits.length), rest)
    else return ({}, args)
  | _ => return ({}, args)

/-- The cut that the first argument asks for if it is a sign with a number, and there is at most one
    other; and the others. -/
def takeOldBack (args : List Octets) : Cut × List Octets :=
  let others := args.drop 1
  let alone := match others with
    | [] => true
    | [name] => !(name.head? == some '-' && name != ['-'])
    | [dashes, _] => dashes == ['-', '-']
    | _ => false
  match args.head? with
  | some (sign :: cs) =>
    let digits := cs.takeWhile Char.isDigit
    let letters := cs.drop digits.length
    let unit := letters.takeWhile "bcl".toList.contains
    let after := letters.drop unit.length
    let isOld := alone && (sign == '+' || (sign == '-' && cs != ['c'] && cs != []
      && cs != ['f'] && (digits != [] || unit != []))) && unit.length ≤ 1
      && (after == [] || after == ['f'])
    if isOld then
      let count := if digits = [] then 10 else digitsValue 10 digits
      ({ byLines := unit = [] ∨ unit = ['l']
         count := if unit = ['b'] then 512 * count else count
         others := sign = '+', following := after = ['f'] }, others)
    else ({}, args)
  | _ => ({}, args)

/-! ## Utilities -/

/-- The options that both utilities have. -/
def partChoices : List Choice :=
  [.valued 'c' "bytes", .valued 'n' "lines", .flag 'q' "quiet",
    { Choice.nameOnly "silent" with key := "quiet" }, .flag 'v' "verbose",
    .flag 'z' "zero-terminated"]

/-- The digits as options, which they are no longer. -/
def digitChoices : List Choice := "0123456789".toList.map Choice.letterOnly

/-- The cut with an option that both utilities have; `sign` in front of a count turns it around. -/
def Cut.with (sign : Char) (cut : Cut) (key : String) (value : Octets) : Task Cut := do
  let others := value.head? = some sign
  let ignored := sign = '+' ∧ value.head? = some '-'
  let digits := if others ∨ ignored then value.drop 1 else value
  match key with
  | "bytes" =>
    return { cut with byLines := false, others, count := ← countArgument "bytes" digits }
  | "lines" =>
    return { cut with byLines := true, others, count := ← countArgument "lines" digits }
  | "quiet" => return { cut with named := some false }
  | "verbose" => return { cut with named := some true }
  | "zero-terminated" => return { cut with terminator := '\x00' }
  | _ => return cut

/-- Takes the options among some arguments. -/
def takeOptionsOf {σ : Type} (args : List Octets) (choices : List Choice) (s : σ)
    (use : σ → String → Octets → Task σ) : Task (σ × List Octets) := do
  let (chosen, words) := readChosen (choices ++ standardChoices) true "" none args
  return (← takeChosen use s chosen, words)

/-- Writes the first parts of files. -/
def firstPart : Utility := run 1 fun _ => do
  let (cut, args) ← takeOldFront (← operands)
  let (cut, names) ← takeOptionsOf args (partChoices ++ digitChoices) cut fun cut key value => do
    if key.all Char.isDigit then misuse ("invalid trailing option -- ".toList ++ key.toList)
    else cut.with '-' key value
  putParts cut cut.front names

/-- Writes the last parts of files. -/
def finalPart : Utility := run 1 fun _ => do
  let (cut, args) := takeOldBack (← operands)
  let choices := partChoices ++ digitChoices
    ++ [{ Choice.flag 'f' "follow" with taking := .possible },
      { Choice.letterOnly 'F' with key := "follow" }, .nameOnly "retry",
      .valued 's' "sleep-interval", { Choice.nameOnly "pid" with taking := .needed }]
  let (cut, names) ← takeOptionsOf args choices cut fun cut key value => do
    if key.all Char.isDigit then
      fail ("option used in invalid context -- ".toList ++ key.toList)
    else if key = "follow" then return { cut with following := true }
    else cut.with '+' key value
  putParts cut (fun text => (cut.back text, [])) names
  if cut.following then
    let streams ← (inputsOf names).mapM streamOf
    let lasting := streams.any fun stream => stream.toOption.any fun
      | .file _ => true
      | _ => false
    if lasting then throw (.outcome .endless)

end LintBroker.Program.Utility
