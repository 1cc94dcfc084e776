/-
  LintBroker.Data.Template

  Message templates.  A percent sign starts a place for a value: after it may stand
  the name of a member, flags, a width and a precision, and at last a letter that says
  how the value is written.
-/
import LintBroker.Data.Display
import LintBroker.Failure
import LintBroker.Number.Digits

namespace LintBroker.Template

open LintBroker.Number LintBroker.Text

/-! ## Values for the places -/

/-- The values that the places of a template take: a row of values one after the other, or members
    of a table by name. -/
structure Supply where
  members : Option Members
  left : List Datum

/-- The values as given: a single table that is not empty supplies its members. -/
def Supply.ofArgs : List Datum → Supply
  | [.table (m :: ms)] => ⟨some (m :: ms), [.table (m :: ms)]⟩
  | args => ⟨none, args⟩

/-- The next value of the row. -/
def Supply.next (supply : Supply) : Except Failure (Datum × Supply) :=
  match supply.left with
  | [] => .error (.wrongKind "not enough arguments for format string")
  | value :: rest => .ok (value, { supply with left := rest })

/-- The supply for a place with a name: the named member alone. -/
def Supply.named (supply : Supply) (name : String) : Except Failure Supply :=
  match supply.members with
  | none => .error (.wrongKind "format requires a mapping")
  | some members =>
    match members.get? name with
    | none => .error (.missingKey name)
    | some value => .ok { supply with left := [value] }

/-! ## Places -/

/-- How a value is written: the flags, the least width and the precision. -/
structure Style where
  left : Bool := false
  plus : Bool := false
  space : Bool := false
  marked : Bool := false
  zeros : Bool := false
  width : Nat := 0
  precision : Option Nat := none

/-- The style with the flag of a character, if it is one. -/
def Style.withFlag? (style : Style) : Char → Option Style
  | '-' => some { style with left := true }
  | '+' => some { style with plus := true }
  | ' ' => some { style with space := true }
  | '#' => some { style with marked := true }
  | '0' => some { style with zeros := true }
  | _ => none

/-- The flags at the start of a text. -/
def flags (style : Style) : List Char → Style × List Char
  | [] => (style, [])
  | c :: rest =>
    match style.withFlag? c with
    | some style => flags style rest
    | none => (style, c :: rest)

/-- A decimal digit of the ASCII range. -/
def isPlainDigit (c : Char) : Bool := '0' ≤ c && c ≤ '9'

/-- What a count in a template is for: its name in a complaint, and the bits it fits in with its
    sign. -/
structure CountRule where
  name : String
  bits : Nat

/-- Widths fit in 64 bits. -/
def widthRule : CountRule := ⟨"width", 64⟩

/-- Precisions fit in 32 bits. -/
def precisionRule : CountRule := ⟨"precision", 32⟩

/-- Whether a count is within the bits of its rule. -/
def CountRule.admits (rule : CountRule) (n : Int) : Bool :=
  -Int.pow 2 (rule.bits - 1) ≤ n && n < Int.pow 2 (rule.bits - 1)

/-- A count in the template: its digits, or a star that takes it from the values. -/
def count (rule : CountRule) (supply : Supply) (cs : List Char) :
    Except Failure (Option Int × Supply × List Char) :=
  match cs with
  | '*' :: rest => do
    let (value, supply) ← supply.next
    let n : Int ← match value with
      | .int n => pure n
      | .bool b => pure (if b then 1 else 0)
      | _ => .error (.wrongKind "* wants int")
    if rule.admits n then pure (some n, supply, rest)
    else .error (.overflow ("the " ++ rule.name ++ " does not fit"))
  | cs =>
    let digits := cs.takeWhile isPlainDigit
    let n : Int := (digitsValue 10 digits : Nat)
    if digits.isEmpty then .ok (none, supply, cs)
    else if rule.admits n then .ok (some n, supply, cs.dropWhile isPlainDigit)
    else .error (.invalidValue (rule.name ++ " too big"))

/-- The name between parentheses, which may hold parentheses in pairs. -/
def nameUpTo (depth : Nat) : List Char → Option (List Char × List Char)
  | [] => none
  | c :: rest =>
    if c = ')' then
      match depth with
      | 0 => some ([], rest)
      | n + 1 => (nameUpTo n rest).map fun p => (c :: p.1, p.2)
    else (nameUpTo (if c = '(' then depth + 1 else depth) rest).map fun p => (c :: p.1, p.2)

/-! ## Writing values -/

/-- Fills a text up to the width of a style with blanks. -/
def Style.pad (style : Style) (cs : List Char) : List Char :=
  let fill := List.replicate (style.width - cs.length) ' '
  if style.left then cs ++ fill else fill ++ cs

/-- Writes a number from its sign, a mark and its digits.  With the flag for it, zeros between the
    mark and the digits fill up the width. -/
def Style.number (style : Style) (negative : Bool) (mark digits : List Char) : List Char :=
  let sign :=
    if negative then ['-'] else if style.plus then ['+'] else if style.space then [' '] else []
  let head := sign ++ mark
  if style.zeros && !style.left then
    head ++ List.replicate (style.width - head.length - digits.length) '0' ++ digits
  else style.pad (head ++ digits)

/-- Writes an integer in a base. -/
def Style.integer (style : Style) (base : Nat) (mark : List Char) (upper : Bool) (n : Int) :
    List Char :=
  let digits := padZeros (style.precision.getD 0) (Nat.toDigits base n.natAbs)
  let digits := if upper then digits.map Char.toUpper else digits
  style.number (n < 0) (if style.marked then mark else []) digits

/-- The whole part of a number, its fraction dropped. -/
def wholePart : Binary64 → Except Failure Int
  | .nan => .error (.invalidValue "cannot convert float NaN to integer")
  | .infinite _ => .error (.overflow "cannot convert float infinity to integer")
  | .finite negative m =>
    let n : Int := (m.units / Magnitude.unitsPerOne : Nat)
    .ok (if negative then -n else n)

/-- A value as an integer, whose fraction may be dropped if `lossy`. -/
def asInteger (letter : Char) (lossy : Bool) : Datum → Except Failure Int
  | .int n => .ok n
  | .bool b => .ok (if b then 1 else 0)
  | .float x =>
    if lossy then wholePart x
    else .error (.wrongKind ("%" ++ String.singleton letter
      ++ " format: an integer is required, not float"))
  | value =>
    let wanted := if lossy then "a real number" else "an integer"
    .error (.wrongKind ("%" ++ String.singleton letter ++ " format: " ++ wanted
      ++ " is required, not " ++ value.kindName))

/-- A value as a binary number. -/
def asReal : Datum → Except Failure Binary64
  | .float x => .ok x
  | .int n =>
    match Binary64.ofInt? n with
    | some x => .ok x
    | none => .error (.overflow "int too large to convert to float")
  | .bool b => .ok (.ofDecimal false (if b then 1 else 0) 0)
  | value => .error (.wrongKind ("must be real number, not " ++ value.kindName))

/-- Writes a binary number as its letter says. -/
def Style.real (style : Style) (letter : Char) (x : Binary64) : List Char :=
  let places := style.precision.getD 6
  let digits (m : Magnitude) : List Char :=
    if letter.toLower = 'f' then m.ratio.positional style.marked places
    else if letter.toLower = 'e' then m.ratio.scientific style.marked places
    else m.ratio.general style.marked places
  let (negative, body) := match x with
    | .nan => (false, "nan".toList)
    | .infinite negative => (negative, "inf".toList)
    | .finite negative m => (negative, digits m)
  style.number negative [] (if letter.isUpper then body.map Char.toUpper else body)

/-- Writes a text, cut off at the precision. -/
def Style.text (style : Style) (s : String) : List Char :=
  style.pad (match style.precision with
    | some n => s.toList.take n
    | none => s.toList)

/-- A shown value with every character beyond ASCII as an escape. -/
def asciiOnly (s : String) : String :=
  String.ofList (s.toList.flatMap fun c =>
    if c.toNat < 0x80 then [c]
    else if c.toNat < 0x100 then '\\' :: 'x' :: hexChars 2 c.toNat
    else if c.toNat < 0x10000 then '\\' :: 'u' :: hexChars 4 c.toNat
    else '\\' :: 'U' :: hexChars 8 c.toNat)

/-- A value as a single character. -/
def asCharacter : Datum → Except Failure String
  | .text s => if s.length = 1 then .ok s else .error (.wrongKind "%c requires int or char")
  | .int n =>
    if 0 ≤ n ∧ n < 0x110000 then .ok (String.singleton (Char.ofNat n.toNat))
    else .error (.overflow "%c arg not in range(0x110000)")
  | .bool b => .ok (String.singleton (Char.ofNat (if b then 1 else 0)))
  | _ => .error (.wrongKind "%c requires int or char")

/-- Writes a value as the letter of its place says; `position` is the place of the letter. -/
def Style.write (style : Style) (letter : Char) (position : Nat) (value : Datum) :
    Except Failure (List Char) :=
  match letter with
  | 's' => .ok (style.text value.asText)
  | 'r' => .ok (style.text value.display)
  | 'a' => .ok (style.text (asciiOnly value.display))
  | 'c' => (asCharacter value).map fun s => style.pad s.toList
  | 'd' => (asInteger letter true value).map (style.integer 10 [] false)
  | 'i' => (asInteger letter true value).map (style.integer 10 [] false)
  | 'u' => (asInteger letter true value).map (style.integer 10 [] false)
  | 'o' => (asInteger letter false value).map (style.integer 8 ['0', 'o'] false)
  | 'x' => (asInteger letter false value).map (style.integer 16 ['0', 'x'] false)
  | 'X' => (asInteger letter false value).map (style.integer 16 ['0', 'X'] true)
  | letter =>
    if "eEfFgG".toList.contains letter then (asReal value).map (style.real letter)
    else
      let shown := if 31 ≤ letter.toNat ∧ letter.toNat < 127 then letter else '?'
      .error (.invalidValue ("unsupported format character '" ++ String.singleton shown ++ "' (0x"
        ++ String.ofList (Nat.toDigits 16 letter.toNat) ++ ") at index " ++ natText position))

/-! ## Filling a template -/

/-- The complaint about a template that ends inside a place. -/
def incomplete : Failure := .invalidValue "incomplete format"

/-- Writes the place that starts after a percent sign, which is not a second percent sign; `total`
    is the length of the template. -/
def place (total : Nat) (supply : Supply) (cs : List Char) :
    Except Failure (List Char × Supply × List Char) := do
  let (supply, cs) ← match cs with
    | '(' :: rest =>
      match supply.members, nameUpTo 0 rest with
      | none, _ => .error (.wrongKind "format requires a mapping")
      | _, none => .error (.invalidValue "incomplete format key")
      | some _, some (name, rest) => (supply.named (String.ofList name)).map fun s => (s, rest)
    | cs => pure (supply, cs)
  let (style, cs) := flags {} cs
  let (width, supply, cs) ← count widthRule supply cs
  let style := match width with
    -- A width below zero, which only a star can give, stands for the flag as well.
    | some n => { style with width := n.natAbs, left := style.left || n < 0 }
    | none => style
  let (style, supply, cs) ← match cs with
    | '.' :: rest => do
      let (precision, supply, rest) ← count precisionRule supply rest
      pure ({ style with precision := some (precision.getD 0).toNat }, supply, rest)
    | cs => pure (style, supply, cs)
  -- One letter for the size of a number has no effect.
  let cs := match cs with
    | c :: rest => if c == 'h' || c == 'l' || c == 'L' then rest else c :: rest
    | [] => []
  match cs with
  | [] => .error incomplete
  | letter :: rest => do
    let (value, supply) ← supply.next
    let out ← style.write letter (total - rest.length - 1) value
    pure (out, supply, rest)

/-- The template with all its places written; `fuel` bounds their number.  Values of a row that no
    place takes are an error. -/
def fillUpTo (total : Nat) : Nat → Supply → List Char → Except Failure (List Char)
  | 0, _, cs => .ok cs
  | fuel + 1, supply, cs =>
    let before := cs.takeWhile (· != '%')
    match cs.dropWhile (· != '%') with
    | [] =>
      -- Members may be left over, values of a row may not.
      if supply.members.isNone && !supply.left.isEmpty then
        .error (.wrongKind "not all arguments converted during string formatting")
      else .ok before
    | _ :: rest => do
      let (out, supply, rest) ← match rest with
        | '%' :: rest => pure (['%'], supply, rest)
        | rest => place total supply rest
      let after ← fillUpTo total fuel supply rest
      pure (before ++ out ++ after)

/-- The message of a template and its values; without values the template is the message. -/
def fill (template : String) (args : List Datum) : Except Failure String :=
  if args.isEmpty then .ok template
  else
    let cs := template.toList
    (fillUpTo cs.length (cs.length + 1) (.ofArgs args) cs).map String.ofList

end LintBroker.Template
