/-
  LintBroker.Json.Reader

  Reading JSON text.  Besides the standard forms the three special numbers are read
  by name.  A number with a fraction or an exponent is a binary number, any other an
  integer, whose digits may be limited.  A text is refused because it is malformed or
  because an integer in it has too many digits, whichever is met first.
-/
import LintBroker.Data.Datum
import LintBroker.Number.Decimal

namespace LintBroker.Json

open LintBroker.Number

/-- Why a text was not read. -/
inductive ReadFault where
  | malformed
  | tooManyDigits (count : Nat)
  deriving DecidableEq, Repr

/-- A value that was read, and what follows it. -/
abbrev Step (α : Type) := Except ReadFault (α × List Char)

/-! ## Lexical parts -/

/-- The four blank characters of JSON. -/
def isJsonBlank (c : Char) : Bool := c == ' ' || c == '\t' || c == '\n' || c == '\r'

/-- The text from its first character that is not blank. -/
def skipBlanks (cs : List Char) : List Char := cs.dropWhile isJsonBlank

/-- A decimal digit. -/
def isAsciiDigit (c : Char) : Bool := '0' ≤ c && c ≤ '9'

/-- The value of a hexadecimal digit. -/
def hexValue? (c : Char) : Option Nat := (digitValue? c).filter (· < 16)

/-- The unit that four hexadecimal digits write. -/
def unit? (a b c d : Char) : Option Nat := do
  let a ← hexValue? a
  let b ← hexValue? b
  let c ← hexValue? c
  let d ← hexValue? d
  pure (((a * 16 + b) * 16 + c) * 16 + d)

/-- The first unit of a pair. -/
def isHighUnit (n : Nat) : Bool := 0xd800 ≤ n && n ≤ 0xdbff

/-- The second unit of a pair. -/
def isLowUnit (n : Nat) : Bool := 0xdc00 ≤ n && n ≤ 0xdfff

/-- The character for a unit; a unit of a pair that stands alone is replaced. -/
def unitChar (n : Nat) : Char :=
  if isHighUnit n || isLowUnit n then Char.ofNat 0xfffd else Char.ofNat n

/-- The character that a letter after a backslash stands for. -/
def shortEscape? : Char → Option Char
  | '"' => some '"'
  | '\\' => some '\\'
  | '/' => some '/'
  | 'b' => some (Char.ofNat 0x08)
  | 'f' => some (Char.ofNat 0x0c)
  | 'n' => some '\n'
  | 'r' => some '\r'
  | 't' => some '\t'
  | _ => none

/-- What one place of a string writes: a character, or a unit of sixteen bits given by its
    number. -/
inductive Mark where
  | char (c : Char)
  | unit (n : Nat)
  deriving DecidableEq, Repr

/-- The marks of a string up to its closing quote.  Controls may not stand for themselves. -/
def stringMarks : List Char → Step (List Mark)
  | [] => .error .malformed
  | '"' :: rest => .ok ([], rest)
  | '\\' :: 'u' :: a :: b :: c :: d :: rest =>
    match unit? a b c d with
    | some n => (stringMarks rest).map fun p => (.unit n :: p.1, p.2)
    | none => .error .malformed
  -- A `u` with too little text behind it comes here, too, and is no escape.
  | '\\' :: c :: rest =>
    match shortEscape? c with
    | some e => (stringMarks rest).map fun p => (.char e :: p.1, p.2)
    | none => .error .malformed
  | c :: rest =>
    if c.toNat < 0x20 || c == '\\' then .error .malformed
    else (stringMarks rest).map fun p => (.char c :: p.1, p.2)

/-- The characters of marks: two units next to each other that form a pair are one character. -/
def joinMarks : List Mark → List Char
  | [] => []
  | .char c :: rest => c :: joinMarks rest
  | .unit high :: .unit low :: rest =>
    if isHighUnit high && isLowUnit low then
      Char.ofNat (0x10000 + (high - 0xd800) * 0x400 + (low - 0xdc00)) :: joinMarks rest
    else unitChar high :: joinMarks (.unit low :: rest)
  | .unit n :: rest => unitChar n :: joinMarks rest

/-- The characters of a string up to its closing quote. -/
def stringBody (cs : List Char) : Step (List Char) :=
  (stringMarks cs).map fun p => (joinMarks p.1, p.2)

/-- The digits after a point, when at least one follows. -/
def fraction (cs : List Char) : List Char × List Char :=
  match cs with
  | '.' :: rest =>
    let digits := rest.takeWhile isAsciiDigit
    if digits.isEmpty then ([], cs) else (digits, rest.dropWhile isAsciiDigit)
  | _ => ([], cs)

/-- The exponent after its letter, when it has a digit. -/
def exponent? (cs : List Char) : Option (Int × List Char) :=
  match cs with
  | e :: rest =>
    if e == 'e' || e == 'E' then
      let (negative, rest) :=
        match rest with
        | '-' :: rest => (true, rest)
        | '+' :: rest => (false, rest)
        | rest => (false, rest)
      let digits := rest.takeWhile isAsciiDigit
      if digits.isEmpty then none
      else
        let n : Int := digitsValue 10 digits
        some (if negative then -n else n, rest.dropWhile isAsciiDigit)
    else none
  | [] => none

/-- A number after its sign.  A zero ends its whole part. -/
def unsignedNumber (maxDigits : Option Nat) (negative : Bool) (cs : List Char) : Step Datum :=
  let whole :=
    match cs with
    | '0' :: _ => ['0']
    | _ => cs.takeWhile isAsciiDigit
  if whole.isEmpty then .error .malformed
  else
    let (digits, rest) := fraction (cs.drop whole.length)
    let power := exponent? rest
    -- Only the digits of an integer are limited: any other number is rounded anyway.
    if digits.isEmpty && power.isNone then
      let n : Int := digitsValue 10 whole
      let tooMany := match maxDigits with
        | some limit => decide (limit < whole.length)
        | none => false
      if tooMany then .error (.tooManyDigits whole.length)
      else .ok (.int (if negative then -n else n), rest)
    else
      let (power, rest) := power.getD (0, rest)
      let digitRow := digitsValue 10 (whole ++ digits)
      let value := Binary64.ofDecimal negative digitRow (power - digits.length)
      .ok (.float value, rest)

/-! ## Values -/

mutual
/-- A value at the start of the text; `fuel` bounds the nesting and the count of items. -/
def value (maxDigits : Option Nat) : Nat → List Char → Step Datum
  | 0, _ => .error .malformed
  | fuel + 1, cs =>
    match cs with
    | '"' :: rest => (stringBody rest).map fun p => (.text (String.ofList p.1), p.2)
    | '[' :: rest =>
      match skipBlanks rest with
      | ']' :: rest => .ok (.list [], rest)
      | rest => (items maxDigits fuel rest).map fun p => (.list p.1, p.2)
    | '\x7b' :: rest =>
      match skipBlanks rest with
      | '\x7d' :: rest => .ok (.table [], rest)
      | rest => (members maxDigits fuel rest).map fun p => (.table (Members.ofPairs p.1), p.2)
    | 'n' :: 'u' :: 'l' :: 'l' :: rest => .ok (.null, rest)
    | 't' :: 'r' :: 'u' :: 'e' :: rest => .ok (.bool true, rest)
    | 'f' :: 'a' :: 'l' :: 's' :: 'e' :: rest => .ok (.bool false, rest)
    | 'N' :: 'a' :: 'N' :: rest => .ok (.float .nan, rest)
    | 'I' :: 'n' :: 'f' :: 'i' :: 'n' :: 'i' :: 't' :: 'y' :: rest =>
      .ok (.float (.infinite false), rest)
    | '-' :: 'I' :: 'n' :: 'f' :: 'i' :: 'n' :: 'i' :: 't' :: 'y' :: rest =>
      .ok (.float (.infinite true), rest)
    | '-' :: rest => unsignedNumber maxDigits true rest
    | cs => unsignedNumber maxDigits false cs

/-- The items of a list up to its closing bracket. -/
def items (maxDigits : Option Nat) : Nat → List Char → Step (List Datum)
  | 0, _ => .error .malformed
  | fuel + 1, cs =>
    match value maxDigits fuel cs with
    | .error fault => .error fault
    | .ok (item, rest) =>
      match skipBlanks rest with
      | ']' :: rest => .ok ([item], rest)
      | ',' :: rest => (items maxDigits fuel (skipBlanks rest)).map fun p => (item :: p.1, p.2)
      | _ => .error .malformed

/-- The members of a table up to its closing brace, in the order written. -/
def members (maxDigits : Option Nat) : Nat → List Char → Step (List (String × Datum))
  | 0, _ => .error .malformed
  | fuel + 1, cs =>
    match cs with
    | '"' :: rest =>
      match stringBody rest with
      | .error fault => .error fault
      | .ok (name, rest) =>
        match skipBlanks rest with
        | ':' :: rest =>
          match value maxDigits fuel (skipBlanks rest) with
          | .error fault => .error fault
          | .ok (item, rest) =>
            match skipBlanks rest with
            | '\x7d' :: rest => .ok ([(String.ofList name, item)], rest)
            -- Behind a comma another member has to follow.
            | ',' :: rest =>
              (members maxDigits fuel (skipBlanks rest)).map fun p =>
                ((String.ofList name, item) :: p.1, p.2)
            | _ => .error .malformed
        | _ => .error .malformed
    | _ => .error .malformed
end

/-- Reads a whole text as one value with blanks around it. -/
def readChars (maxDigits : Option Nat) (cs : List Char) : Except ReadFault Datum :=
  match value maxDigits (cs.length + 1) (skipBlanks cs) with
  | .error fault => .error fault
  | .ok (v, rest) => if (skipBlanks rest).isEmpty then .ok v else .error .malformed

/-- Reads a text whose integers keep to the limit on digits. -/
def read (s : String) : Except ReadFault Datum := readChars (some digitLimit) s.toList

end LintBroker.Json
