/-
  LintBroker.Program.Utility.Basic

  What the utilities of the system have in common: they take options, write to their
  output, complain under their name, and end with a status that tells how it went.
-/
import LintBroker.Program.Utility.Choice
import LintBroker.Program.Utility.Quoting
import LintBroker.Program.World

namespace LintBroker.Program

open LintBroker.Files LintBroker.Text

/-- A program of the system: given a way to start others, it runs to its end. -/
abbrev Utility := Start → Call → World → Outcome × World

namespace Utility

/-! ## Steps -/

/-- A utility at work: what it was given, the status for failures, the world, the status so far, and
    why its output could not be written, if that is so. -/
structure Progress where
  call : Call
  failure : Nat
  world : World
  status : Nat := 0
  unwritten : Option SystemError := none

/-- Why a utility ends: with a status, or with the outcome of a program that runs in its place. -/
inductive Leaving where
  | exit (status : Nat)
  | outcome (outcome : Outcome)

/-- A step of a utility; it can be the last one. -/
abbrev Task := ExceptT Leaving (StateM Progress)

/-- The name of the utility, as it was called. -/
def self : Task Octets := return (← get).call.args.head?.getD []

/-- The arguments behind the name. -/
def operands : Task (List Octets) := return (← get).call.args.drop 1

/-- Writes to the output.  If that fails, it counts at the end. -/
def put (cs : Octets) : Task Unit := do
  let state ← get
  match state.call.write? 1 cs state.world with
  | .ok world => set { state with world }
  | .error e => set { state with unwritten := state.unwritten.orElse fun _ => some e }

/-- Writes a line to the output. -/
def putLine (cs : Octets) : Task Unit := put (cs ++ ['\n'])

/-- Writes a line of complaint. -/
def complainRaw (cs : Octets) : Task Unit :=
  modify fun state => { state with world := state.call.write 2 (cs ++ ['\n']) state.world }

/-- Complains under the name of the utility. -/
def complain (message : Octets) : Task Unit := do
  complainRaw ((← self) ++ ": ".toList ++ message)

/-- Ends with a status. -/
def leave {α : Type} (status : Nat) : Task α := throw (.exit status)

/-- Complains, and counts as failed at the end. -/
def report (message : Octets) : Task Unit := do
  complain message
  modify fun state => { state with status := state.failure }

/-- Complains and ends. -/
def fail {α : Type} (message : Octets) : Task α := do
  complain message
  leave (← get).failure

/-- A text with a reason of the system behind it. -/
def withReason (cs : Octets) (e : SystemError) : Octets :=
  cs ++ ": ".toList ++ e.description.toList

/-- Tells where to find help, and ends. -/
def seeHelp {α : Type} : Task α := do
  complainRaw ("Try '".toList ++ (← self) ++ " --help' for more information.".toList)
  leave (← get).failure

/-- Complains about wrong use and ends. -/
def misuse {α : Type} (message : Octets) : Task α := do
  complain message
  seeHelp

/-- The collection that the utilities belong to. -/
def edition : Octets := "(GNU coreutils) 9.1".toList

/-- The last part of a path. -/
def lastName (path : Octets) : Octets := (path.reverse.takeWhile (· != '/')).reverse

/-- Shows how the utility is used, and ends. -/
def showUsage {α : Type} (status : Nat) : Task α := do
  putLine ("Usage: ".toList ++ (← self) ++ " [OPTION]...".toList)
  leave status

/-- Shows the name and the edition of the utility, and ends. -/
def showEdition {α : Type} (status : Nat) : Task α := do
  putLine (lastName (← self) ++ ' ' :: edition)
  leave status

/-! ## Options -/

/-- The options that every utility has. -/
def standardChoices : List Choice := [.nameOnly "help", .nameOnly "version"]

/-- Goes through options that were read, one after the other. -/
def takeChosen {σ : Type} (use : σ → String → Octets → Task σ) : σ → List Chosen → Task σ
  | s, [] => return s
  | _, .wrong complaint :: _ => misuse complaint
  | s, .choice key value :: rest => do
    if key = "help" then showUsage 0
    else if key = "version" then showEdition 0
    else takeChosen use (← use s key (value.getD [])) rest

/-- Takes the options among the arguments; gives what was made of them and the other arguments. -/
def takeOptions {σ : Type} (choices : List Choice) (s : σ) (use : σ → String → Octets → Task σ) :
    Task (σ × List Octets) := do
  let (chosen, words) := readChosen (choices ++ standardChoices) true "" none (← operands)
  return (← takeChosen use s chosen, words)

/-- Takes the options in front of the other arguments. -/
def takeLeading {σ : Type} (choices : List Choice) (s : σ) (use : σ → String → Octets → Task σ) :
    Task (σ × List Octets) := do
  let (chosen, words) := readChosen (choices ++ standardChoices) false "" none (← operands)
  return (← takeChosen use s chosen, words)

/-- Takes no options but those that every utility has. -/
def takeStandard : Task (List Octets) := do
  let ((), words) ← takeOptions [] () fun s _ _ => return s
  return words

/-! ## Running -/

/-- Ends a utility whose output was written, or could not be. -/
def finish (status : Nat) (state : Progress) : Outcome × World :=
  match state.unwritten with
  | none => (.exited status, state.world)
  | some e =>
    let name := state.call.args.head?.getD []
    let complaint := withReason (name ++ ": write error".toList) e ++ ['\n']
    (.exited state.failure, state.call.write 2 complaint state.world)

/-- Runs the steps of a utility to its end. -/
def run (failure : Nat) (task : Start → Task Unit) : Utility := fun start call world =>
  match (task start).run { call, failure, world } with
  | (.ok (), state) => finish state.status state
  | (.error (.exit status), state) => finish status state
  | (.error (.outcome outcome), state) => (outcome, state.world)

/-! ## Files -/

/-- The name stands for the input. -/
def namesInput (name : Octets) : Bool := name == ['-']

/-- Reads all of the input. -/
def readInput : Task (Except SystemError Octets) := do
  let state ← get
  match state.call.unread 0 state.world with
  | .ok text => do
    set { state with world := state.call.leave 0 [] state.world }
    return .ok text
  | .error e => return .error e

/-- Opens a file for reading; a directory can be opened, too. -/
def openFile (name : Octets) : Task (Except SystemError Stream) := do
  let state ← get
  return state.world.reading state.call.directory name

/-- All that can be read from a stream that was opened. -/
def readStream (stream : Stream) : Task (Except SystemError Octets) := do
  let (n, world) := (← get).world.withStream stream
  return world.unread n

/-- Reads a file, or the input. -/
def readFile (name : Octets) : Task (Except SystemError Octets) := do
  if namesInput name then readInput
  else
    match ← openFile name with
    | .ok stream => readStream stream
    | .error e => return .error e

/-- The names to read, the input if there are none. -/
def inputsOf (names : List Octets) : List Octets := if names.isEmpty then [['-']] else names

end Utility

end LintBroker.Program
