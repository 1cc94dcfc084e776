/-
  LintBroker.Shell.Builtin.Basic

  What the commands of the shell have in common: complaints about their use, options
  in front of the operands, and numbers.
-/
import LintBroker.Shell.Expansion

namespace LintBroker.Shell

open LintBroker.Number LintBroker.Text

/-- A command of the shell: given its arguments, it gives a status. -/
abbrev Builtin := List Octets → Act Nat

/-- The status for a condition. -/
def statusOf (success : Bool) : Nat := if success then 0 else 1

/-- Writes a text to the output, once the command ends. -/
def put (cs : Octets) : Act Unit :=
  modify fun state => { state with pending := state.pending ++ cs }

/-- Writes what is pending to the output; false if that takes nothing. -/
def putPending : Act Bool := do
  let text := (← get).pending
  modify fun state => { state with pending := [] }
  tell outputChannel text

/-! ## Options -/

/-- An option that was given, with its argument if it takes one. -/
abbrev GivenOption := Char × Octets

/-- A letter among those that a command knows; a colon behind it says that it takes an argument. -/
def takesArgument? (known : List Char) (c : Char) : Option Bool :=
  match known with
  | [] => none
  | k :: rest =>
    if k = c ∧ c ≠ ':' then some (rest.head? == some ':') else takesArgument? rest c

/-- The options that letters give: the rest of the text behind one that takes an argument is that
    argument, and else the next text is. -/
def letterOptions (known : List Char) : List Char → List Octets →
    Except Octets (List GivenOption × List Octets)
  | [], rest => .ok ([], rest)
  | c :: letters, rest =>
    match takesArgument? known c with
    | none => .error ("Illegal option -".toList ++ [c])
    | some false => do
      let (options, rest) ← letterOptions known letters rest
      .ok ((c, []) :: options, rest)
    | some true =>
      match letters, rest with
      | _ :: _, _ => .ok ([(c, letters)], rest)
      | [], argument :: rest => .ok ([(c, argument)], rest)
      | [], [] => .error ("No arg for -".toList ++ c :: " option".toList)

/-- The options at the front of some arguments, and the operands behind them; two dashes end the
    options. -/
def splitOptions (known : List Char) : Nat → List Octets →
    Except Octets (List GivenOption × List Octets)
  | 0, args => .ok ([], args)
  | _, [] => .ok ([], [])
  | fuel + 1, arg :: rest =>
    match arg with
    | ['-', '-'] => .ok ([], rest)
    | '-' :: c :: letters => do
      let (options, rest) ← letterOptions known (c :: letters) rest
      let (others, operands) ← splitOptions known fuel rest
      .ok (options ++ others, operands)
    | _ => .ok ([], arg :: rest)

/-- The options and the operands of a command. -/
def takeOptions (known : String) (args : List Octets) : Act (List GivenOption × List Octets) := do
  match splitOptions known.toList (args.length + 1) args with
  | .ok result => return result
  | .error message => misuse message

/-- An option was given. -/
def gives (options : List GivenOption) (c : Char) : Bool := options.any (·.1 == c)

/-! ## Numbers -/

/-- The greatest count that is taken from an argument. -/
def countLimit : Int := Int.pow 2 31 - 1

/-- The complaint about a text that is no number. -/
def noNumber (cs : Octets) : Octets := "Illegal number: ".toList ++ cs

/-- The count that an argument writes. -/
def countArg (cs : Octets) : Act Nat := do
  match wholeText? cs with
  | some n => if 0 ≤ n ∧ n ≤ countLimit then return n.toNat else misuse (noNumber cs)
  | none => misuse (noNumber cs)

/-! ## Variables -/

/-- Gives a variable a text; the name has to be one. -/
def assignNamed (name text : Octets) : Act Unit := do
  if isName name then assign name text else misuse (name ++ ": bad variable name".toList)

/-! ## Quotes -/

/-- A text in quotes that the shell reads back as the text: single quotes around all but the single
    quotes, which stand in double quotes. -/
def quotedText : Nat → Octets → Octets
  | 0, _ => []
  | fuel + 1, cs =>
    let front := cs.takeWhile (· != '\'')
    let after := cs.drop front.length
    let quotes := after.takeWhile (· == '\'')
    let rest := after.drop quotes.length
    '\'' :: front ++ '\'' :: (if quotes = [] then [] else
      '"' :: quotes ++ '"' :: (if rest = [] then [] else quotedText fuel rest))

/-- A text in quotes. -/
def inQuotes (cs : Octets) : Octets := quotedText (cs.length + 1) cs

end LintBroker.Shell
