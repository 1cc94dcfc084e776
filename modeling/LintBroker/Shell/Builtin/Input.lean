/-
  LintBroker.Shell.Builtin.Input

  The command that reads a line of the input into variables.
-/
import LintBroker.Shell.Builtin.Basic

namespace LintBroker.Shell

open LintBroker.Text

/-- A line of input, each octet with a mark whether a backslash protects it; what follows the line;
    and whether the line was ended.  Without backslashes every octet stands for itself. -/
def inputLine (raw : Bool) : Octets → List (Char × Bool) × Octets × Bool
  | [] => ([], [], false)
  | '\n' :: rest => ([], rest, true)
  | ['\\'] => (if raw then [('\\', false)] else [], [], false)
  | '\\' :: c :: rest =>
    if raw then
      let (line, after, ended) := inputLine raw (c :: rest)
      (('\\', false) :: line, after, ended)
    else
      let (line, after, ended) := inputLine raw rest
      (if c = '\n' then line else (c, true) :: line, after, ended)
  | c :: rest =>
    let (line, after, ended) := inputLine raw rest
    ((c, false) :: line, after, ended)

/-- The first field of a line and the rest of the line; one separator that is not blank goes with
    the blanks around it. -/
def firstField (separators : Octets) (line : List (Char × Bool)) :
    List (Char × Bool) × List (Char × Bool) :=
  let blank (p : Char × Bool) : Bool := !p.2 && isBlankSeparator separators p.1
  let line := line.dropWhile blank
  let field := line.takeWhile fun p => p.2 || !separators.contains p.1
  let after := (line.drop field.length).dropWhile blank
  match after with
  | p :: rest =>
    if !p.2 && separators.contains p.1 then (field, rest.dropWhile blank) else (field, after)
  | [] => (field, [])

/-- The texts of a line for so many names; the last one gets all that is left. -/
def lineTexts (separators : Octets) : Nat → List (Char × Bool) → List Octets
  | 0, _ => []
  | 1, line =>
    let blank (p : Char × Bool) : Bool := !p.2 && isBlankSeparator separators p.1
    let (field, rest) := firstField separators line
    if rest.isEmpty then [field.map (·.1)]
    else
      let inner := ((line.dropWhile blank).reverse.dropWhile blank).reverse
      [inner.map (·.1)]
  | n + 2, line =>
    let (field, rest) := firstField separators line
    field.map (·.1) :: lineTexts separators (n + 1) rest

/-- Reads a line into variables. -/
def readLine : Builtin := fun args => do
  let (options, names) ← takeOptions "p:r" args
  if names = [] then misuse "arg count".toList
  else
    let state ← get
    let stream := state.channels.lookup 0
    let unread := (stream.bind fun n => (state.world.unread n).toOption).getD []
    let (line, after, ended) := inputLine (gives options 'r') unread
    let line := line.filter fun p => p.1 != '\x00'
    match stream with
    | some n => set { state with world := state.world.leave n after }
    | none => pure ()
    let texts := lineTexts state.separators names.length line
    (names.zip texts).forM fun (name, text) => assignNamed name text
    return statusOf ended

end LintBroker.Shell
