/-
  LintBroker.Cli.Arguments

  Telling options from operands.  An option starts with a dash; its value follows it,
  or is joined to it by an equals sign.  Two dashes alone end the options.
-/
import LintBroker.Cli.Spec
import LintBroker.Text.Quoted
import LintBroker.Text.Similarity
import LintBroker.Text.Split

namespace LintBroker.Cli

open LintBroker.Text

/-! ## Faults -/

/-- What can be wrong with how the program is called. -/
inductive UsageFault where
  | noSuchOption (name : String) (similar : List String)
  | noSuchCommand (name : String) (similar : List String)
  | missingCommand
  | valueNotTaken (name : String)
  | valueMissing (name : String)
  | missingOperand (name : String)
  | noChoice (option value : String) (choices : List String)
  | notDirectory (option path : String)
  | extraOperands (operands : List String)
  deriving DecidableEq, Repr

/-- The hint at similar names. -/
def similarHint (word : String) : List String → String
  | [] => ""
  | [name] => " Did you mean " ++ quoted name ++ "?"
  | names =>
    let ordered := names.mergeSort fun a b => decide (a ≤ b)
    " (Possible " ++ word ++ ": " ++ ", ".intercalate (ordered.map quoted) ++ ")"

/-- The words for a fault. -/
def UsageFault.message : UsageFault → String
  | .noSuchOption name similar =>
    "No such option " ++ quoted name ++ "." ++ similarHint "options" similar
  | .noSuchCommand name similar =>
    "No such command " ++ quoted name ++ "." ++ similarHint "commands" similar
  | .missingCommand => "Missing command."
  | .valueNotTaken name => "Option " ++ quoted name ++ " does not take a value."
  | .valueMissing name => "Option " ++ quoted name ++ " requires an argument."
  | .missingOperand name => "Missing argument " ++ quoted name ++ "."
  | .noChoice option value choices =>
    "Invalid value for " ++ quoted option ++ ": " ++ quoted value ++ " is not one of "
      ++ ", ".intercalate (choices.map quoted) ++ "."
  | .notDirectory option path =>
    "Invalid value for " ++ quoted option ++ ": Directory " ++ quoted path ++ " is a file."
  | .extraOperands operands =>
    "Got unexpected extra argument" ++ (if operands.length = 1 then "" else "s") ++ " ("
      ++ " ".intercalate operands ++ ")"

/-- The fault is told without showing how the command is called. -/
def UsageFault.isBrief : UsageFault → Bool
  | .valueNotTaken _ => true
  | .valueMissing _ => true
  | _ => false

/-- The complaint about a call of a command. -/
def UsageFault.report (fault : UsageFault) (spec : CommandSpec) : String :=
  (if fault.isBrief then ""
    else spec.usage ++ "Try '" ++ spec.path ++ " --help' for help.\n\n")
    ++ "Error: " ++ fault.message ++ "\n"

/-! ## Scanning -/

/-- An option as it was given, with its value if it takes one. -/
structure Given where
  option : OptionSpec
  value : Option String
  deriving DecidableEq, Repr

/-- The options that were given, in order, and the other arguments. -/
structure Scanned where
  given : List Given
  operands : List String
  deriving DecidableEq, Repr

/-- An argument that is meant as an option. -/
def looksLikeOption (arg : String) : Bool :=
  match arg.toList with
  | '-' :: _ :: _ => true
  | _ => false

/-- The name of an option and the value joined to it. -/
def splitOption (arg : String) : String × Option String :=
  let cs := arg.toList
  if cs.contains '=' then
    let value := (cs.dropWhile (· != '=')).drop 1
    (String.ofList (cs.takeWhile (· != '=')), some (String.ofList value))
  else (arg, none)

/-- The fault of an option that a command does not have.  After a single dash each letter is an
    option of its own, of which none is known. -/
def unknownOption (spec : CommandSpec) (arg : String) : UsageFault :=
  match arg.toList with
  | '-' :: '-' :: _ =>
    let name := (splitOption arg).1
    .noSuchOption name (closeMatches name (spec.options.map OptionSpec.name))
  | '-' :: c :: _ => .noSuchOption (String.ofList ['-', c]) []
  | _ => .noSuchOption arg []

/-- Adds an option to those that follow it. -/
def Scanned.withGiven (scanned : Scanned) (option : OptionSpec) (value : Option String) : Scanned :=
  { scanned with given := ⟨option, value⟩ :: scanned.given }

/-- Adds an operand to those that follow it. -/
def Scanned.withOperand (scanned : Scanned) (operand : String) : Scanned :=
  { scanned with operands := operand :: scanned.operands }

/-- Tells options from operands.  If options may not stand behind an operand, the first operand ends
    them. -/
def scan (spec : CommandSpec) (mixed : Bool) : List String → Except UsageFault Scanned
  | [] => .ok ⟨[], []⟩
  | arg :: rest =>
    if arg = "--" then .ok ⟨[], rest⟩
    else if looksLikeOption arg then
      let (name, joined) := splitOption arg
      match spec.options.find? (·.name == name) with
      | none => .error (unknownOption spec arg)
      | some option =>
        match option.kind, joined with
        | .takesValue _, some value => (scan spec mixed rest).map (·.withGiven option (some value))
        | .takesValue _, none =>
          match rest with
          | [] => .error (.valueMissing name)
          | value :: rest => (scan spec mixed rest).map (·.withGiven option (some value))
        | _, some _ => .error (.valueNotTaken name)
        | _, none => (scan spec mixed rest).map (·.withGiven option none)
    else if mixed then (scan spec mixed rest).map (·.withOperand arg)
    else .ok ⟨[], arg :: rest⟩

namespace Scanned

/-- The first option given that shows something and ends the program. -/
def ending? (scanned : Scanned) : Option OptionKind :=
  (scanned.given.map fun g => g.option.kind).find? fun kind => kind == .help || kind == .version

/-- A switch was given. -/
def has (scanned : Scanned) (name : String) : Bool :=
  scanned.given.any fun g => g.option.name == name

/-- The last value given for an option. -/
def value? (scanned : Scanned) (name : String) : Option String :=
  (scanned.given.reverse.find? fun g => g.option.name == name).bind Given.value

end Scanned

end LintBroker.Cli
