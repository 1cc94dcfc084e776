/-
  LintBroker.Shell.Words

  Command templates as words.  A template is cut at blanks; quotes keep blanks inside
  a word, and a backslash takes away the meaning of the next character.  In the other
  direction a list of words is written so that cutting it gives the words back.
-/

namespace LintBroker.Shell

/-! ## Cutting -/

/-- Why a template cannot be cut. -/
inductive WordsFault where
  | noClosingQuotation
  | noEscapedCharacter
  deriving DecidableEq, Repr

/-- The words for a fault. -/
def WordsFault.message : WordsFault → String
  | .noClosingQuotation => "No closing quotation"
  | .noEscapedCharacter => "No escaped character"

/-- Where the reading of a template stands: between words, in a word, in one of the two kinds of
    quotes, or behind a backslash, which may stand in double quotes. -/
inductive Mode where
  | gap
  | word
  | single
  | double
  | escape (quoted : Bool)
  deriving DecidableEq, Repr

/-- The characters that end a word. -/
def isGap (c : Char) : Bool := c == ' ' || c == '\t' || c == '\r' || c == '\n'

/-- The words from a state of the reading on; `done` holds the characters of the current word
    backwards.  In double quotes a backslash only takes effect before a double quote or another
    backslash. -/
def cut : Mode → List Char → List Char → Except WordsFault (List (List Char))
  | .gap, _, [] => .ok []
  | .word, done, [] => .ok [done.reverse]
  | .single, _, [] => .error .noClosingQuotation
  | .double, _, [] => .error .noClosingQuotation
  | .escape _, _, [] => .error .noEscapedCharacter
  | .gap, done, c :: rest =>
    if isGap c then cut .gap done rest
    else if c = '\\' then cut (.escape false) [] rest
    else if c = '\'' then cut .single [] rest
    else if c = '"' then cut .double [] rest
    else cut .word [c] rest
  | .word, done, c :: rest =>
    if isGap c then (cut .gap [] rest).map (done.reverse :: ·)
    else if c = '\\' then cut (.escape false) done rest
    else if c = '\'' then cut .single done rest
    else if c = '"' then cut .double done rest
    else cut .word (c :: done) rest
  | .single, done, c :: rest =>
    if c = '\'' then cut .word done rest else cut .single (c :: done) rest
  | .double, done, c :: rest =>
    if c = '"' then cut .word done rest
    else if c = '\\' then cut (.escape true) done rest
    else cut .double (c :: done) rest
  | .escape false, done, c :: rest => cut .word (c :: done) rest
  | .escape true, done, c :: rest =>
    if c = '"' ∨ c = '\\' then cut .double (c :: done) rest
    else cut .double (c :: '\\' :: done) rest

/-- The words of a template. -/
def words (template : String) : Except WordsFault (List String) :=
  (cut .gap [] template.toList).map fun parts => parts.map String.ofList

/-! ## Writing -/

/-- A character that needs no quotes. -/
def isPlain (c : Char) : Bool :=
  ('a' ≤ c && c ≤ 'z') || ('A' ≤ c && c ≤ 'Z') || ('0' ≤ c && c ≤ '9')
    || "_@%+=:,./-".toList.contains c

/-- A single quote leaves the quotes, stands in double ones, and enters them again. -/
def quotedWordChar (c : Char) : List Char :=
  if c = '\'' then ['\'', '"', '\'', '"', '\''] else [c]

/-- A word as it is written: plain words as they are, all others in single quotes. -/
def wordChars (word : List Char) : List Char :=
  if word ≠ [] ∧ word.all isPlain then word
  else '\'' :: word.flatMap quotedWordChar ++ ['\'']

/-- Words with a blank between each two. -/
def joinChars (parts : List (List Char)) : List Char :=
  List.intercalate [' '] (parts.map wordChars)

/-- The text of a list of words. -/
def joinWords (parts : List String) : String := String.ofList (joinChars (parts.map String.toList))

end LintBroker.Shell
