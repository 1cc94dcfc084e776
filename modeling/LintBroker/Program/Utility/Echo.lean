/-
  LintBroker.Program.Utility.Echo

  Backslashes in the texts that utilities write, and the utility that writes its
  arguments.
-/
import LintBroker.Number.Numeral
import LintBroker.Program.Utility.Basic

namespace LintBroker.Program.Utility

open LintBroker.Number LintBroker.Text

/-! ## Backslashes -/

/-- The characters for letters behind a backslash. -/
def backslashLetters : List (Char × Char) :=
  [('a', '\x07'), ('b', '\x08'), ('e', '\x1b'), ('f', '\x0c'), ('n', '\n'), ('r', '\r'),
    ('t', '\t'), ('v', '\x0b'), ('\\', '\\')]

/-- A digit of base eight. -/
def isOctalDigit (c : Char) : Bool := '0' ≤ c && c ≤ '7'

/-- The digits at the front of a text, so many at most, and what follows. -/
def leadingDigits (isDigit : Char → Bool) (most : Nat) (cs : Octets) : Octets × Octets :=
  let digits := (cs.takeWhile isDigit).take most
  (digits, cs.drop digits.length)

/-- The octet that some digits write. -/
def octetOf (base : Nat) (digits : Octets) : Char := Char.ofNat (digitsValue base digits % 256)

/-- A text with its backslashes replaced, as it is echoed: up to three digits of base eight, of
    which an extra zero in front does not count, up to two of base sixteen behind an `x`, and
    nothing more behind a `c`; gives whether that came. -/
def echoed : Nat → Octets → Octets × Bool
  | 0, _ => ([], false)
  | _, [] => ([], false)
  | fuel + 1, '\\' :: c :: rest =>
    let go (octet : Char) (rest : Octets) : Octets × Bool :=
      let (text, ended) := echoed fuel rest
      (octet :: text, ended)
    match backslashLetters.lookup c with
    | some octet => go octet rest
    | none =>
      if c = 'c' then ([], true)
      else if c = '0' then
        let (digits, rest) := leadingDigits isOctalDigit 3 rest
        go (octetOf 8 digits) rest
      else if isOctalDigit c then
        let (digits, rest) := leadingDigits isOctalDigit 3 (c :: rest)
        go (octetOf 8 digits) rest
      else
        let (digits, after) := leadingDigits Numeral.isHexDigit 2 rest
        if c = 'x' ∧ digits ≠ [] then go (octetOf 16 digits) after
        else
          let (text, ended) := echoed fuel rest
          ('\\' :: c :: text, ended)
  | fuel + 1, c :: rest =>
    let (text, ended) := echoed fuel rest
    (c :: text, ended)

/-! ## Arguments -/

/-- How arguments are echoed: without the end of the line, and with backslashes replaced. -/
structure EchoStyle where
  unended : Bool := false
  escaped : Bool := false
  deriving DecidableEq, Repr

/-- The style that the letters of a word ask for. -/
def EchoStyle.withLetters (style : EchoStyle) (letters : Octets) : EchoStyle :=
  letters.foldl (fun style c =>
    if c = 'n' then { style with unended := true }
    else { style with escaped := c = 'e' }) style

/-- The style that the words in front of others ask for.  A word with any other letter is no
    option. -/
def EchoStyle.take (style : EchoStyle) : List Octets → EchoStyle × List Octets
  | ('-' :: c :: cs) :: rest =>
    if (c :: cs).all "neE".toList.contains then (style.withLetters (c :: cs)).take rest
    else (style, ('-' :: c :: cs) :: rest)
  | args => (style, args)

/-- Shows help or the edition if that is all that is asked for, and ends with a status. -/
def answerAlone (status : Nat) (args : List Octets) : Task Unit := do
  if args = ["--help".toList] then showUsage status
  else if args = ["--version".toList] then showEdition status

/-- Writes its arguments. -/
def echo : Utility := run 1 fun _ => do
  let args ← operands
  answerAlone 0 args
  let (style, args) := EchoStyle.take {} args
  let line := List.intercalate [' '] args
  let (text, ended) := if style.escaped then echoed (line.length + 1) line else (line, false)
  put (if style.unended || ended then text else text ++ ['\n'])

/-- Does nothing, and ends with a status. -/
def doNothing (status : Nat) : Utility := run 1 fun _ => do
  answerAlone status (← operands)
  leave status

end LintBroker.Program.Utility
