/-
  LintBroker.Shell.Cursor

  Reading a script from left to right: where the reading stands, the documents that the
  lines passed so far announced, and the tokens that end words.
-/
import LintBroker.Number.Decimal
import LintBroker.Shell.Grammar

namespace LintBroker.Shell

open LintBroker.Text

/-! ## State -/

/-- A document whose text follows the line that announces it, up to a line of its own. -/
structure Announced where
  ending : Octets
  quoted : Bool
  withoutTabs : Bool

/-- A word whose place was taken by another text: the word, how much follows the text, and whether
    the text ends with a blank, so that the word behind it may be replaced, too. -/
structure Replaced where
  word : Octets
  behind : Nat
  endsBlank : Bool
  deriving DecidableEq

/-- Where the reading of a script stands. -/
structure Cursor where
  rest : Octets
  line : Nat := 1
  /-- The documents read so far; a redirection names one by its index. -/
  documents : List Word := []
  announced : List Announced := []
  /-- The words that have other texts, with these. -/
  aliases : List (Octets × Octets) := []
  /-- The replaced words, the latest first. -/
  replaced : List Replaced := []
  /-- The next word may be replaced wherever it stands. -/
  replacesNext : Bool := false

/-- A breach of the rules of the language. -/
structure Breach where
  line : Nat
  message : Octets

/-- Readers of a part of a script. -/
abbrev Read := StateT Cursor (Except Breach)

/-- What is still to be read. -/
def remaining : Read Octets := do return (← get).rest

/-- Goes on at a later place of the same line. -/
def moveTo (rest : Octets) : Read Unit := modify fun cursor => { cursor with rest }

/-- Goes on behind some text, which may hold the ends of lines. -/
def moveOver (text rest : Octets) : Read Unit :=
  modify fun cursor => { cursor with rest, line := cursor.line + text.count '\n' }

/-- Stops with a complaint. -/
def breach {α : Type} (message : String) : Read α := do
  throw { line := (← get).line, message := message.toList }

/-! ## Tokens -/

/-- The marks between words, longer ones before those they begin with. -/
def marks : List (List Char) :=
  ["<<-", "&&", "||", ";;", "<<", "<&", "<>", ">>", ">&", ">|", ";", "&", "|", "(", ")", "<",
    ">"].map String.toList

/-- The mark at the front of a text. -/
def mark? (cs : Octets) : Option (List Char) := marks.find? fun m => m.isPrefixOf cs

/-- A character that ends a word unless it is quoted. -/
def endsWord (c : Char) : Bool :=
  c == ' ' || c == '\t' || c == '\n' || c == ';' || c == '&' || c == '|' || c == '<' || c == '>'
    || c == '(' || c == ')'

/-- A character that begins something in a word: quotes, or what is to be expanded. -/
def beginsPart (c : Char) : Bool := c == '\'' || c == '"' || c == '\\' || c == '$' || c == '`'

/-- The words with a meaning of their own where a command is expected. -/
def reservedWords : List (List Char) :=
  ["!", "\x7b", "\x7d", "case", "do", "done", "elif", "else", "esac", "fi", "for", "if", "in",
    "then", "until", "while"].map String.toList

/-- The reserved words that end a list of commands. -/
def closingWords : List (List Char) :=
  ["\x7d", "do", "done", "elif", "else", "esac", "fi", "then"].map String.toList

/-- The commands of the shell whose assignments stay and whose misuse ends the shell; no function
    can have their names. -/
def specialNames : List (List Char) :=
  [":", ".", "break", "continue", "eval", "exec", "exit", "export", "local", "readonly", "return",
    "set", "shift", "times", "trap", "unset"].map String.toList

/-- The reserved word at the front of a text. -/
def reserved? (cs : Octets) : Option (List Char) :=
  let word := cs.takeWhile fun c => !endsWord c && !beginsPart c
  let clean := match cs.drop word.length with
    | c :: _ => endsWord c
    | [] => true
  if clean && reservedWords.contains word then some word else none

/-! ## Moving on -/

/-- What is left behind blanks, joined lines and a remark, with the lines that were passed. -/
def behindBlanks : Octets → Nat → Octets × Nat
  | ' ' :: rest, line => behindBlanks rest line
  | '\t' :: rest, line => behindBlanks rest line
  | '\\' :: '\n' :: rest, line => behindBlanks rest (line + 1)
  | '#' :: rest, line => (rest.dropWhile (· != '\n'), line)
  | rest, line => (rest, line)

/-- Skips blanks.  When these lead out of a replacing text that ends with a blank, the next word may
    be replaced. -/
def skipBlanks : Read Unit := modify fun cursor =>
  let (rest, line) := behindBlanks cursor.rest cursor.line
  let leaves (r : Replaced) : Bool :=
    r.endsBlank && r.behind < cursor.rest.length && rest.length ≤ r.behind
  { cursor with
    rest, line, replacesNext := cursor.replacesNext || cursor.replaced.any leaves }

/-- Puts the text of a word in its place if the word has one, and skips blanks, again and again.  A
    word is not replaced within its own text. -/
def replaceWord (reservedStay : Bool) : Nat → Read Unit
  | 0 => return
  | fuel + 1 => do
    let cursor ← get
    let word := cursor.rest.takeWhile fun c => !endsWord c && !beginsPart c
    let after := cursor.rest.drop word.length
    let isWhole := match after with
      | c :: _ => endsWord c
      | [] => true
    let inside := cursor.replaced.any fun r => r.word = word && r.behind < cursor.rest.length
    if !isWhole ∨ inside ∨ (reservedStay ∧ reservedWords.contains word) then return
    else
      match cursor.aliases.lookup word with
      | none => return
      | some text => do
        let r : Replaced := ⟨word, after.length, text.getLast?.any fun c => c == ' ' || c == '\t'⟩
        let unread := cursor.replaced.filter fun r => r.behind < cursor.rest.length
        set { cursor with
          rest := text ++ after
          replaced := if text.isEmpty then unread else r :: unread }
        skipBlanks
        replaceWord reservedStay fuel

/-- How often words are replaced at one place. -/
def replacementLimit : Nat := 1000

/-- Replaces the word that comes next, where a command is expected. -/
def replaceCommandWord : Read Unit := do
  skipBlanks
  replaceWord true replacementLimit
  modify fun cursor => { cursor with replacesNext := false }

/-- Replaces the word that comes next if the text before it asks for that. -/
def replaceNextWord : Read Unit := do
  skipBlanks
  if (← get).replacesNext then
    modify fun cursor => { cursor with replacesNext := false }
    replaceWord false replacementLimit

/-- What a complaint calls the next token. -/
def tokenName (cs : Octets) : String :=
  match cs with
  | [] => "end of file"
  | '\n' :: _ => "newline"
  | _ =>
    match mark? cs with
    | some m =>
      if m.head? = some '<' ∨ m.head? = some '>' then "redirection"
      else "\"" ++ String.ofList m ++ "\""
    | none =>
      match reserved? cs with
      | some word => "\"" ++ String.ofList word ++ "\""
      | none => "word"

/-- What may be expected to come next: a reserved word or a mark, or any word. -/
inductive Expected where
  | token (text : String)
  | anyWord
  deriving DecidableEq, Repr

/-- What a complaint calls what was expected. -/
def Expected.name : Expected → String
  | .token text => "\"" ++ text ++ "\""
  | .anyWord => "word"

/-- Stops at a token that cannot stand here.  The end of a line is behind the line. -/
def unexpected {α : Type} (expected : Option Expected) : Read α := do
  let wanted := match expected with
    | some e => " (expecting " ++ e.name ++ ")"
    | none => ""
  let cs ← remaining
  modify fun cursor => { cursor with line := cursor.line + (cs.take 1).count '\n' }
  breach ("Syntax error: " ++ tokenName cs ++ " unexpected" ++ wanted)

/-- Stops at a token that cannot stand here, where no word has a meaning of its own. -/
def unexpectedWord {α : Type} (expected : Expected) : Read α := do
  let cs ← remaining
  if (reserved? cs).isSome then
    breach ("Syntax error: word unexpected (expecting " ++ expected.name ++ ")")
  else unexpected (some expected)

/-- Takes a text that has to come next. -/
def expectText (text : String) : Read Unit := do
  skipBlanks
  let cs ← remaining
  if text.toList.isPrefixOf cs then moveTo (cs.drop text.length) else unexpected (some (.token text))

end LintBroker.Shell
