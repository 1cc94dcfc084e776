/-
  LintBroker.Program.Utility.Printing

  The utility that writes its arguments into the places of a format.
-/
import LintBroker.Number.Layout
import LintBroker.Program.Utility.Echo

namespace LintBroker.Program.Utility

open LintBroker.Files LintBroker.Number LintBroker.Text

/-! ## Backslashes -/

/-- Ends with success, whatever happened before. -/
def endPrinting {α : Type} : Task α := leave 0

/-- The octets of the character with a number in base sixteen of exactly so many digits, behind its
    letter. -/
def namedCharacter (letter : Char) (count : Nat) (cs : Octets) : Task (Octets × Octets) := do
  let (digits, rest) := leadingDigits Numeral.isHexDigit count cs
  if digits.length < count then fail "missing hexadecimal number in escape".toList
  let n := digitsValue 16 digits
  if 0xd800 ≤ n ∧ n ≤ 0xdfff then
    fail ("invalid universal character name \\".toList ++ letter :: digits.map Char.toLower)
  else if n < 0x110000 then return (Octets.ofBytes (Utf8.encodeChar (Char.ofNat n)), rest)
  else return ('\\' :: letter :: digits, rest)

/-- What a backslash before a text gives, and what follows.  In the text of an argument an extra
    zero in front of digits of base eight does not count. -/
def backslash (inArgument : Bool) (cs : Octets) : Task (Octets × Octets) := do
  match cs with
  | [] => return (['\\'], [])
  | c :: rest =>
    if c = 'x' then
      let (digits, after) := leadingDigits Numeral.isHexDigit 2 rest
      if digits = [] then fail "missing hexadecimal number in escape".toList
      return ([octetOf 16 digits], after)
    else if isOctalDigit c then
      let (digits, after) :=
        -- Behind the extra zero there may be three more digits.
        leadingDigits isOctalDigit 3 (if inArgument ∧ c = '0' then rest else cs)
      return ([octetOf 8 digits], after)
    else if c = '"' then return (['"'], rest)
    else if c = 'c' then endPrinting
    else if c = 'u' then namedCharacter c 4 rest
    else if c = 'U' then namedCharacter c 8 rest
    else
      match backslashLetters.lookup c with
      | some octet => return ([octet], rest)
      | none => return (['\\', c], rest)

/-- Writes an argument with its backslashes replaced. -/
def putUnescaped : Nat → Octets → Task Unit
  | 0, _ => return
  | _, [] => return
  | fuel + 1, '\\' :: rest => do
    let (octets, rest) ← backslash true rest
    put octets
    putUnescaped fuel rest
  | fuel + 1, c :: rest => do
    put [c]
    putUnescaped fuel rest

/-! ## Numbers -/

/-- The number of the character behind the quote at the front of an argument.  Complains about what
    follows the character. -/
def characterNumber? (arg : Octets) : Task (Option Nat) := do
  match arg with
  | quote :: cs =>
    if (quote = '\'' ∨ quote = '"') ∧ cs ≠ [] then
      let (n, rest) := match Utf8.firstPiece (Octets.toBytes cs) with
        | some (.scalar c, taken) => (c.toNat, cs.drop taken)
        | _ => ((cs.head?.getD '\x00').toNat, cs.drop 1)
      if rest ≠ [] then
        complain ("warning: ".toList ++ rest ++
          ": character(s) following character constant have been ignored".toList)
      return some n
    else return none
  | [] => return none

/-- Complains about an argument that is no number, or has something behind it. -/
def checkNumber (arg : Octets) (read : Option Octets) (lost : Bool) : Task Unit := do
  if lost then report (withReason (quoted arg) ⟨34⟩)
  else
    match read with
    | some [] => return
    | none =>
      if arg ≠ [] then report (quoted arg ++ ": expected a numeric value".toList)
    | some _ => report (quoted arg ++ ": value not completely converted".toList)

/-- The whole number that an argument writes, between two bounds. -/
def wholeArgument (low high : Int) (arg : Octets) : Task Int := do
  match ← characterNumber? arg with
  | some n => return n
  | none =>
    let read := signedNumber? arg
    let value := (read.map (·.1)).getD 0
    checkNumber arg (read.map (·.2)) (value < low || high < value)
    return if value < low then low else if high < value then high else value

/-- The whole number without a sign that an argument writes; one below zero counts from the end. -/
def unsignedArgument (arg : Octets) : Task Nat := do
  match ← characterNumber? arg with
  | some n => return n
  | none =>
    let read := signedNumber? arg
    let value := (read.map (·.1)).getD 0
    let lost := Nat.pow 2 64 ≤ value.natAbs
    checkNumber arg (read.map (·.2)) lost
    return if lost then Nat.pow 2 64 - 1 else (value % Int.pow 2 64).toNat

/-- The binary number that an argument writes. -/
def realArgument (arg : Octets) : Task Rounded := do
  match ← characterNumber? arg with
  | some n => return (Precision.extended.round false n 1).1
  | none =>
    match Numeral.read? .extended arg with
    | none => do
      checkNumber arg none false
      return .finite false 0 0
    | some numeral => do
      checkNumber arg (some numeral.rest) numeral.lost
      return numeral.value

/-! ## Places -/

/-- The letters that end a place. -/
def placeLetters : List Char := "aAcdeEfFgGiosuxX".toList

/-- The letters that a flag can stand with. -/
def lettersWith (flag : Char) (letters : List Char) : List Char :=
  let without (others : String) := letters.filter fun c => !others.toList.contains c
  if flag = '\'' ∨ flag = 'I' then without "aAceEosxX"
  else if flag = '#' then without "cdisu"
  else if flag = '0' then without "cs"
  else letters

/-- The characters that are flags of places. -/
def placeFlags : List Char := "-+ #0'I".toList

/-- The greatest width and precision. -/
def countLimit : Int := Int.pow 2 31 - 1

/-- Takes the first of some arguments, an empty one if there is none. -/
def takeArgument (args : List Octets) : Octets × List Octets := (args.head?.getD [], args.drop 1)

/-- The width at the front of a text, and what follows it; a star stands for an argument. -/
def takeWidth (cs : Octets) (args : List Octets) : Task (Int × Octets × List Octets) := do
  match cs with
  | '*' :: rest =>
    match args with
    | [] => return (0, rest, [])
    | arg :: args => do
      let n ← wholeArgument least greatest arg
      if n < -countLimit - 1 ∨ countLimit < n then
        fail ("invalid field width: ".toList ++ quoted arg)
      return (n, rest, args)
  | _ =>
    let digits := cs.takeWhile Char.isDigit
    return (digitsValue 10 digits, cs.drop digits.length, args)

/-- The precision at the front of a text, and what follows it; a star stands for an argument. -/
def takePrecision (cs : Octets) (args : List Octets) :
    Task (Option Nat × Octets × List Octets) := do
  match cs with
  | '*' :: rest =>
    match args with
    | [] => return (some 0, rest, [])
    | arg :: args => do
      let n ← wholeArgument least greatest arg
      if countLimit < n then fail ("invalid precision: ".toList ++ quoted arg)
      return (if n < 0 then none else some n.toNat, rest, args)
  | _ =>
    let digits := cs.takeWhile Char.isDigit
    return (some (digitsValue 10 digits), cs.drop digits.length, args)

/-- Writes an argument in a layout as a letter says. -/
def putArgument (layout : Layout) (letter : Char) (arg : Octets) : Task Unit := do
  if letter = 's' then put (layout.text arg)
  else if letter = 'c' then put (layout.pad [arg.head?.getD '\x00'])
  else if letter = 'd' ∨ letter = 'i' then
    put (layout.signed (← wholeArgument least greatest arg))
  else if "ouxX".toList.contains letter then
    put (layout.unsigned letter (← unsignedArgument arg))
  else put (layout.real .extended letter (← realArgument arg))

/-- Fills the place behind a percent sign; gives what follows it, and the arguments that are
    left. -/
def putPlace (cs : Octets) (args : List Octets) : Task (Octets × List Octets) := do
  match cs with
  | '%' :: rest => do
    put ['%']
    return (rest, args)
  | 'b' :: rest => do
    if let arg :: _ := args then putUnescaped arg.length arg
    return (rest, args.drop 1)
  | 'q' :: rest => do
    if let arg :: _ := args then put (asWord arg)
    return (rest, args.drop 1)
  | _ => do
    let flags := cs.takeWhile placeFlags.contains
    let after := cs.drop flags.length
    let layout := flags.foldl (fun layout c => (layout.withFlag? c).getD layout) ({} : Layout)
    let (width, after, args) ← takeWidth after args
    let letters := flags.foldl (fun letters c => lettersWith c letters) placeLetters
    let (precision, after, args, letters) ← match after with
      | '.' :: after => do
        let (precision, after, args) ← takePrecision after args
        pure (precision, after, args, letters.filter (· != 'c'))
      | _ => pure (none, after, args, letters)
    let layout :=
      { layout with width := width.natAbs, minus := layout.minus || width < 0, precision }
    let after := after.dropWhile "lLhjtz".toList.contains
    match after with
    | letter :: rest =>
      if !letters.contains letter then
        let used := '%' :: cs.take (cs.length - rest.length)
        fail (used ++ ": invalid conversion specification".toList)
      else
        let (arg, args) := takeArgument args
        putArgument layout letter arg
        return (rest, args)
    | [] => fail ('%' :: cs ++ ": invalid conversion specification".toList)

/-- Goes through a format once; gives the arguments that are left. -/
def putFormat : Nat → Octets → List Octets → Task (List Octets)
  | 0, _, args => return args
  | _, [], args => return args
  | fuel + 1, '%' :: rest, args => do
    let (rest, args) ← putPlace rest args
    putFormat fuel rest args
  | fuel + 1, '\\' :: rest, args => do
    let (octets, rest) ← backslash false rest
    put octets
    putFormat fuel rest args
  | fuel + 1, c :: rest, args => do
    put [c]
    putFormat fuel rest args

/-- Goes through a format until it has used up all arguments; a format that takes none is used
    once. -/
def putFormats (format : Octets) : Nat → List Octets → Task Unit
  | 0, _ => return
  | fuel + 1, args => do
    let left ← putFormat format.length format args
    match left with
    | [] => return
    | first :: _ =>
      if left.length < args.length then putFormats format fuel left
      else
        complain ("warning: ignoring excess arguments, starting with ".toList ++ quoted first)

/-- Writes its arguments as a format says. -/
def printFormat : Utility := run 1 fun _ => do
  let args ← operands
  answerAlone 0 args
  let args := if args.head? = some ['-', '-'] then args.drop 1 else args
  match args with
  | [] => misuse "missing operand".toList
  | format :: args => putFormats format (args.length + 1) args

end LintBroker.Program.Utility
