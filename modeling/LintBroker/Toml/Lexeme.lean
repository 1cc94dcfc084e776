/-
  LintBroker.Toml.Lexeme

  The lexical parts of a TOML document: blanks, comments, strings and keys.  Line
  ends are newlines alone; a reader brings a document into that form first.
-/
import LintBroker.Json.Reader

namespace LintBroker.Toml

open LintBroker.Number

/-- Why a document was not read. -/
inductive Fault where
  | malformed
  | tooManyDigits (count : Nat)
  deriving DecidableEq, Repr

/-- A part that was read, and what follows it. -/
abbrev Step (α : Type) := Except Fault (α × List Char)

/-! ## Characters -/

/-- A blank within a line. -/
def isTomlBlank (c : Char) : Bool := c == ' ' || c == '\t'

/-- A blank or the end of a line. -/
def isTomlGap (c : Char) : Bool := isTomlBlank c || c == '\n'

/-- A control that may not stand in a comment or in a string on one line; the tab may. -/
def isIllegal (c : Char) : Bool := (c.toNat < 0x20 && c != '\t') || c.toNat == 0x7f

/-- A control that may not stand in a string of several lines. -/
def isIllegalInLines (c : Char) : Bool := isIllegal c && c != '\n'

/-- A character of a key that needs no quotes. -/
def isBareKeyChar (c : Char) : Bool :=
  ('a' ≤ c && c ≤ 'z') || ('A' ≤ c && c ≤ 'Z') || ('0' ≤ c && c ≤ '9') || c == '-' || c == '_'

/-- The text from its first character that is no blank. -/
def skipBlanks (cs : List Char) : List Char := cs.dropWhile isTomlBlank

/-! ## Comments -/

/-- What follows a comment, or the text itself when it does not start with one. -/
def skipComment (cs : List Char) : Except Fault (List Char) :=
  match cs with
  | '#' :: rest =>
    if (rest.takeWhile (· != '\n')).any isIllegal then .error .malformed
    else .ok (rest.dropWhile (· != '\n'))
  | cs => .ok cs

/-- What follows blanks, line ends and comments; `fuel` bounds the number of comments. -/
def skipGaps : Nat → List Char → Except Fault (List Char)
  | 0, cs => .ok (cs.dropWhile isTomlGap)
  | fuel + 1, cs =>
    match cs.dropWhile isTomlGap with
    | '#' :: rest =>
      match skipComment ('#' :: rest) with
      | .error fault => .error fault
      | .ok rest => skipGaps fuel rest
    | rest => .ok rest

/-! ## Strings -/

/-- The character that a letter after a backslash stands for. -/
def shortEscape? : Char → Option Char
  | 'b' => some (Char.ofNat 0x08)
  | 't' => some '\t'
  | 'n' => some '\n'
  | 'f' => some (Char.ofNat 0x0c)
  | 'r' => some '\r'
  | '"' => some '"'
  | '\\' => some '\\'
  | _ => none

/-- The character that hexadecimal digits number; surrogates and numbers beyond the last code point
    number none. -/
def scalarOf? (digits : List Char) : Option Char :=
  if digits.all fun c => (Json.hexValue? c).isSome then
    let n := digitsValue 16 digits
    if n < 0xd800 ∨ (0xdfff < n ∧ n < 0x110000) then some (Char.ofNat n) else none
  else none

/-- A character given by so many hexadecimal digits. -/
def numberedChar (count : Nat) (cs : List Char) : Step Char :=
  if (cs.take count).length < count then .error .malformed
  else
    match scalarOf? (cs.take count) with
    | some c => .ok (c, cs.drop count)
    | none => .error .malformed

/-- An escape after its backslash: at most one character.  In a string of several lines a backslash
    at the end of a line takes away the line end and all blanks after it. -/
def escape (severalLines : Bool) (cs : List Char) : Step (List Char) :=
  match cs with
  | [] => .error .malformed
  | c :: rest =>
    if severalLines && c == '\n' then .ok ([], rest.dropWhile isTomlGap)
    else if severalLines && isTomlBlank c then
      match skipBlanks rest with
      | [] => .ok ([], [])
      | '\n' :: rest => .ok ([], rest.dropWhile isTomlGap)
      | _ => .error .malformed
    else if c = 'u' then (numberedChar 4 rest).map fun p => ([p.1], p.2)
    else if c = 'U' then (numberedChar 8 rest).map fun p => ([p.1], p.2)
    else
      match shortEscape? c with
      | some e => .ok ([e], rest)
      | none => .error .malformed

/-- The characters of a string with escapes up to its closing mark, which is one quote or three;
    `fuel` bounds the number of steps. -/
def basicBody (severalLines : Bool) : Nat → List Char → Step (List Char)
  | 0, _ => .error .malformed
  | fuel + 1, cs =>
    match cs with
    | [] => .error .malformed
    | '"' :: rest =>
      if !severalLines then .ok ([], rest)
      else
        match rest with
        | '"' :: '"' :: rest => .ok ([], rest)
        | rest => (basicBody severalLines fuel rest).map fun p => ('"' :: p.1, p.2)
    | '\\' :: rest =>
      match escape severalLines rest with
      | .error fault => .error fault
      | .ok (out, rest) => (basicBody severalLines fuel rest).map fun p => (out ++ p.1, p.2)
    | c :: rest =>
      if (if severalLines then isIllegalInLines c else isIllegal c) then .error .malformed
      else (basicBody severalLines fuel rest).map fun p => (c :: p.1, p.2)

/-- A string with escapes on one line, after its opening quote. -/
def basicString (cs : List Char) : Step (List Char) := basicBody false (cs.length + 1) cs

/-- A string without escapes on one line, after its opening quote. -/
def literalString (cs : List Char) : Step (List Char) :=
  let body := cs.takeWhile (· != '\'')
  match cs.dropWhile (· != '\'') with
  | [] => .error .malformed
  | _ :: rest => if body.any isIllegal then .error .malformed else .ok (body, rest)

/-- The characters before three apostrophes in a row, and what follows those. -/
def untilTriple : List Char → Option (List Char × List Char)
  | [] => none
  | '\'' :: '\'' :: '\'' :: rest => some ([], rest)
  | c :: rest => (untilTriple rest).map fun p => (c :: p.1, p.2)

/-- One line end at the start is not part of a string of several lines. -/
def skipFirstLineEnd : List Char → List Char
  | '\n' :: rest => rest
  | cs => cs

/-- Up to two quotes that follow the closing mark of a string of several lines belong to it. -/
def extraQuotes (mark : Char) (body : List Char) : List Char → List Char × List Char
  | c :: d :: rest =>
    if c = mark then if d = mark then (body ++ [mark, mark], rest) else (body ++ [mark], d :: rest)
    else (body, c :: d :: rest)
  | [c] => if c = mark then (body ++ [mark], []) else (body, [c])
  | [] => (body, [])

/-- A string with escapes on several lines, after its opening mark. -/
def basicLines (cs : List Char) : Step (List Char) :=
  (basicBody true (cs.length + 1) (skipFirstLineEnd cs)).map fun p => extraQuotes '"' p.1 p.2

/-- A string without escapes on several lines, after its opening mark. -/
def literalLines (cs : List Char) : Step (List Char) :=
  match untilTriple (skipFirstLineEnd cs) with
  | none => .error .malformed
  | some (body, rest) =>
    if body.any isIllegalInLines then .error .malformed else .ok (extraQuotes '\'' body rest)

/-! ## Keys -/

/-- The names on the way to a member. -/
abbrev Key := List String

/-- One name of a key. -/
def keyPart (cs : List Char) : Step String :=
  match cs with
  | '\'' :: rest => (literalString rest).map fun p => (String.ofList p.1, p.2)
  | '"' :: rest => (basicString rest).map fun p => (String.ofList p.1, p.2)
  | cs =>
    let bare := cs.takeWhile isBareKeyChar
    if bare.isEmpty then .error .malformed
    else .ok (String.ofList bare, cs.dropWhile isBareKeyChar)

/-- A key: names with dots between them, blanks around each; `fuel` bounds the number of names. -/
def keyUpTo : Nat → List Char → Step Key
  | 0, _ => .error .malformed
  | fuel + 1, cs =>
    match keyPart cs with
    | .error fault => .error fault
    | .ok (name, rest) =>
      match skipBlanks rest with
      | '.' :: rest => (keyUpTo fuel (skipBlanks rest)).map fun p => (name :: p.1, p.2)
      | rest => .ok ([name], rest)

/-- A key with the blanks after it. -/
def key (cs : List Char) : Step Key := keyUpTo (cs.length + 1) cs

end LintBroker.Toml
