/-
  LintBroker.Shell.Grammar

  Scripts in the shell language as data: words with what is to be expanded in them,
  redirections, and commands.
-/
import LintBroker.Text.Octets

namespace LintBroker.Shell

open LintBroker.Text

/-- How two commands are joined: the second one runs when the first one succeeds, or when it
    fails. -/
inductive Junction where
  | whenTrue
  | whenFalse
  deriving DecidableEq, Repr

/-- What a redirection does with a file that is there: it is emptied unless files are kept from
    that, it is emptied in any case, or it is written on. -/
inductive OutputManner where
  | emptying
  | overwriting
  | appending
  deriving DecidableEq, Repr

mutual

/-- A part of a word.  What comes of a quoted part is neither cut into fields nor taken for a
    pattern.  A tilde stands for the home directory of a user, of the user of the shell if none is
    named; in an argument that looks like an assignment it does so only if it is taken for one. -/
inductive Piece where
  | text (quoted : Bool) (chars : Octets)
  | home (always : Bool) (user : Octets)
  | parameter (quoted : Bool) (name : Octets) (use : Use)
  | substitution (quoted : Bool) (body : Command)
  | arithmetic (quoted : Bool) (expression : List Piece)

/-- What is made of the value of a parameter.  The flag `empty` says that an empty value counts as
    none.  A `final` word stands behind the value and ends the whole word that the parameter is
    in. -/
inductive Use where
  | value
  | final (word : List Piece)
  | length
  | fallback (empty : Bool) (word : List Piece)
  | assign (empty : Bool) (word : List Piece)
  | require (empty : Bool) (word : List Piece)
  | alternative (empty : Bool) (word : List Piece)
  | trim (atEnd longest : Bool) (word : List Piece)
  | malformed

/-- A change to one of the channels of a command. -/
inductive Redirect where
  | input (channel : Nat) (word : List Piece)
  | output (channel : Nat) (manner : OutputManner) (word : List Piece)
  | both (channel : Nat) (word : List Piece)
  | copy (channel : Nat) (word : List Piece)
  | document (channel : Nat) (index : Nat)

/-- A command, with the line on which it starts where a complaint may name it. -/
inductive Command where
  | simple (line : Nat) (assignments : List (Octets × List Piece)) (words : List (List Piece))
      (redirects : List Redirect)
  | pipeline (parts : List Command)
  | negated (body : Command)
  | joined (junction : Junction) (first second : Command)
  | sequence (parts : List Command)
  | background (body : Command)
  | subshell (body : Command)
  | conditional (test yes : Command) (no : Option Command)
  | repeated (untilTrue : Bool) (test body : Command)
  | forEach (line : Nat) (name : Octets) (items : Option (List (List Piece))) (body : Command)
  | select (line : Nat) (subject : List Piece) (branches : List (List (List Piece) × Command))
  | define (name : Octets) (body : Command)
  | redirected (line : Nat) (body : Command) (redirects : List Redirect)

end

/-- What stands behind this part of a word does not count. -/
def Piece.endsWord : Piece → Bool
  | .parameter _ _ (.final _) => true
  | _ => false

/-- A word as its parts from left to right. -/
abbrev Word := List Piece

/-- The command that does nothing. -/
def Command.nothing : Command := .sequence []

/-- The text of a word that holds nothing to be expanded, and whether any of it is quoted. -/
def plainText? : Word → Option (Octets × Bool)
  | [] => some ([], false)
  | .text quoted chars :: rest =>
    (plainText? rest).map fun (after, anyQuoted) => (chars ++ after, quoted || anyQuoted)
  | .home _ user :: rest =>
    (plainText? rest).map fun (after, anyQuoted) => ('~' :: user ++ after, anyQuoted)
  | _ => none

/-- A letter or an underscore. -/
def beginsName (c : Char) : Bool := c.isAlpha || c == '_'

/-- A character that a name can hold. -/
def inName (c : Char) : Bool := c.isAlphanum || c == '_'

/-- The name that a text is, as a whole. -/
def isName (cs : Octets) : Bool :=
  match cs with
  | c :: rest => beginsName c && rest.all inName
  | [] => false

/-- The name at the front of a text that assigns to it, and the text behind the equals sign. -/
def assignment? (cs : Octets) : Option (Octets × Octets) :=
  let name := cs.takeWhile inName
  match cs.drop name.length with
  | '=' :: rest => if isName name then some (name, rest) else none
  | _ => none

/-- The word looks like an assignment. -/
def looksLikeAssignment (word : Word) : Bool :=
  match word with
  | .text false chars :: _ => (assignment? chars).isSome
  | _ => false

end LintBroker.Shell
