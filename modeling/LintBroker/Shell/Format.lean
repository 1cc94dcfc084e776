/-
  LintBroker.Shell.Format

  Formatted output of scripts: backslashes in texts that are echoed, and formats with
  places for arguments.
-/
import LintBroker.Number.Layout
import LintBroker.Number.Numeral
import LintBroker.Shell.Sum

namespace LintBroker.Shell

open LintBroker.Number LintBroker.Text

/-! ## Backslashes -/

/-- A digit of base eight. -/
def isOctal (c : Char) : Bool := '0' ≤ c && c ≤ '7'

/-- The octets for one letter behind a backslash. -/
def letterEscapes : List (Char × Char) :=
  [('a', '\x07'), ('b', '\x08'), ('e', '\x1b'), ('f', '\x0c'), ('n', '\n'), ('r', '\r'),
    ('t', '\t'), ('v', '\x0b'),
    ('\\', '\\')]

/-- The octet that up to three digits of base eight give. -/
def octalOctet (digits : Octets) : Char := Char.ofNat (digitsValue 8 digits % 256)

/-- What a backslash before a text gives, and what follows.  A backslash without a meaning stays. -/
def escape (cs : Octets) : Char × Octets :=
  match cs with
  | [] => ('\\', [])
  | c :: rest =>
    match letterEscapes.lookup c with
    | some d => (d, rest)
    | none =>
      let digits := (cs.takeWhile isOctal).take 3
      if digits = [] then ('\\', cs) else (octalOctet digits, cs.drop digits.length)

/-- A text with its backslashes replaced, and whether it ended early at a backslash with a `c`.
    Octal numbers may have an extra zero in front. -/
def unescaped : Nat → Octets → Octets × Bool
  | 0, _ => ([], false)
  | _, [] => ([], false)
  | _, '\\' :: 'c' :: _ => ([], true)
  | fuel + 1, '\\' :: '0' :: rest =>
    let digits := (rest.takeWhile isOctal).take 3
    let (text, ended) := unescaped fuel (rest.drop digits.length)
    (octalOctet digits :: text, ended)
  | fuel + 1, '\\' :: rest =>
    let (c, rest) := escape rest
    let (text, ended) := unescaped fuel rest
    (c :: text, ended)
  | fuel + 1, c :: rest =>
    let (text, ended) := unescaped fuel rest
    (c :: text, ended)

/-- The output for a list of texts: they are separated by blanks and end with a line end, unless
    the first one asks to leave that out. -/
def echoed (args : List Octets) : Octets :=
  let (silent, args) := match args with
    | ['-', 'n'] :: rest => (true, rest)
    | _ => (false, args)
  let line := List.intercalate [' '] args
  let (text, ended) := unescaped line.length line
  if silent || ended then text else text ++ ['\n']

/-! ## Formats -/

/-- What a format has given so far, and the arguments that are left. -/
structure Formatted where
  /-- The output in reverse. -/
  output : List Octets := []
  complaints : List Octets := []
  args : List Octets
  /-- Nothing is written from here on. -/
  ended : Bool := false
  /-- The format cannot be used further. -/
  broken : Bool := false

namespace Formatted

/-- Writes a text. -/
def write (f : Formatted) (cs : Octets) : Formatted := { f with output := cs :: f.output }

/-- Notes a complaint about a text. -/
def complain (f : Formatted) (cs : Octets) (message : String) : Formatted :=
  { f with complaints := f.complaints ++ [cs ++ message.toList] }

/-- Takes the next argument, an empty one when there is none. -/
def next (f : Formatted) : Octets × Formatted :=
  match f.args with
  | [] => ([], f)
  | arg :: rest => (arg, { f with args := rest })

/-- Takes the number that the next argument writes, from `low` up to `most`; a quote asks for the
    number of the octet behind it. -/
def takeNumber (f : Formatted) (low most : Int) : Int × Formatted :=
  let (arg, f) := f.next
  match arg with
  | [] => (0, f)
  | '\'' :: c :: _ => (c.toNat, f)
  | '"' :: c :: _ => (c.toNat, f)
  | _ =>
    match signedNumber? arg with
    | none => (0, f.complain arg ": expected numeric value")
    | some (value, rest) =>
      if value < low then (low, f.complain arg ": Numerical result out of range")
      else if most < value then (most, f.complain arg ": Numerical result out of range")
      else if rest = [] then (value, f)
      else (value, f.complain arg ": not completely converted")

/-- Takes the binary number that the next argument writes; a quote asks for the number of the octet
    behind it. -/
def takeReal (f : Formatted) : Rounded × Formatted :=
  let (arg, f) := f.next
  let nothing : Rounded := .finite false 0 0
  let ofOctet (c : Char) : Rounded := (Precision.double.round false c.toNat 1).1
  match arg with
  | [] => (nothing, f)
  | '\'' :: rest => (ofOctet (rest.head?.getD '\x00'), f)
  | '"' :: rest => (ofOctet (rest.head?.getD '\x00'), f)
  | _ =>
    match Numeral.read? .double arg with
    | none => (nothing, f.complain arg ": expected numeric value")
    | some numeral =>
      if numeral.rest ≠ [] then (numeral.value, f.complain arg ": not completely converted")
      else if numeral.lost then (numeral.value, f.complain arg ": Numerical result out of range")
      else (numeral.value, f)

/-- Takes the count at the front of a text, if there is one; a star stands for an argument. -/
def takeCount (f : Formatted) (cs : Octets) : Option Int × Formatted × Octets :=
  match cs with
  | '*' :: rest =>
    let (n, f) := f.takeNumber least greatest
    (some n, f, rest)
  | _ =>
    let digits := cs.takeWhile Char.isDigit
    (if digits = [] then none else some (digitsValue 10 digits), f, cs.drop digits.length)

/-- Writes the next argument as a letter says; none when the letter has no meaning. -/
def writeAs (f : Formatted) (layout : Layout) (letter : Char) : Option Formatted :=
  if letter = 's' then
    let (arg, f) := f.next
    some (f.write (layout.text arg))
  else if letter = 'c' then
    let (arg, f) := f.next
    some (f.write (layout.pad [arg.head?.getD '\x00']))
  else if letter = 'b' then
    let (arg, f) := f.next
    let (text, ended) := unescaped arg.length arg
    some { f.write (layout.text text) with ended }
  else if letter = 'd' ∨ letter = 'i' then
    let (n, f) := f.takeNumber least greatest
    some (f.write (layout.signed n))
  else if ['o', 'u', 'x', 'X'].contains letter then
    let (n, f) := f.takeNumber (-Int.pow 2 64 + 1) (Int.pow 2 64 - 1)
    some (f.write (layout.unsigned letter (bits n)))
  else if "aAeEfFgG".toList.contains letter then
    let (r, f) := f.takeReal
    some (f.write (layout.real .double letter r))
  else none

/-- Fills the place behind a percent sign; gives what follows the place. -/
def place (f : Formatted) (cs : Octets) : Formatted × Octets :=
  match cs with
  | '%' :: rest => (f.write ['%'], rest)
  | _ =>
    let (layout, after) := Layout.withFlags {} cs
    let (width, f, after) := f.takeCount after
    let width := width.getD 0
    let layout := { layout with width := width.natAbs, minus := layout.minus || width < 0 }
    let (precision, f, after) := match after with
      | '.' :: after =>
        let (n, f, after) := f.takeCount after
        let n := n.getD 0
        (if n < 0 then none else some n.toNat, f, after)
      | _ => (none, f, after)
    let layout := { layout with precision }
    match after with
    | [] => ({ f.complain [] "missing format character" with broken := true }, [])
    | letter :: rest =>
      match f.writeAs layout letter with
      | some f => (f, rest)
      | none =>
        let used := '%' :: cs.take (cs.length - rest.length)
        ({ f.complain used ": invalid directive" with broken := true }, [])

/-- Goes through a format once. -/
def pass : Nat → Formatted → Octets → Formatted
  | 0, f, _ => f
  | _, f, [] => f
  | fuel + 1, f, '%' :: rest =>
    let (f, rest) := f.place rest
    if f.ended || f.broken then f else pass fuel f rest
  | fuel + 1, f, '\\' :: rest =>
    let (c, rest) := escape rest
    pass fuel (f.write [c]) rest
  | fuel + 1, f, c :: rest => pass fuel (f.write [c]) rest

/-- Goes through a format until it has used up all arguments; a format without places is used
    once. -/
def passes : Nat → Formatted → Octets → Formatted
  | 0, f, _ => f
  | fuel + 1, f, format =>
    let after := pass format.length f format
    if after.ended || after.broken || after.args.isEmpty
      || after.args.length = f.args.length then after
    else passes fuel after format

/-- What a format gives for some arguments. -/
def ofArgs (format : Octets) (args : List Octets) : Formatted :=
  passes (args.length + 1) { args } format

/-- All that was written. -/
def text (f : Formatted) : Octets := f.output.reverse.flatten

end Formatted

end LintBroker.Shell
