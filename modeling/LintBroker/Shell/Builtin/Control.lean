/-
  LintBroker.Shell.Builtin.Control

  The commands that end or leave something, and those that change the parameters and
  the switches of the shell.
-/
import LintBroker.Shell.Builtin.Basic

namespace LintBroker.Shell

open LintBroker.Number LintBroker.Text

/-! ## Ends -/

/-- The status that a command is given. -/
def givenStatus (args : List Octets) : Act (Option Nat) := do
  match args with
  | [] => return none
  | arg :: _ => return some (← countArg arg)

/-- Ends the shell with the status that is given, else with that of the last command.  In what is
    kept for a signal or the end this is the one before it. -/
def exitShell : Builtin := fun args => do
  let given ← givenStatus args
  let state ← get
  throw (.exit ((given.getD (state.statusBefore.getD state.status)) % 256))

/-- Ends the function or the file. -/
def goBack : Builtin := fun args => do throw (.back (← givenStatus args))

/-- Leaves loops. -/
def leaveLoops (stop : Nat → Stop) : Builtin := fun args => do
  let count ← match args with
    | [] => pure 1
    | arg :: _ => countArg arg
  if count = 0 then misuse (noNumber (args.head?.getD []))
  else
    let depth := (← get).loops
    if depth = 0 then return 0
    else
      modify fun state => { state with status := 0 }
      throw (stop (min count depth))

/-- Takes parameters away from the front. -/
def shift : Builtin := fun args => do
  let count ← match args with
    | [] => pure 1
    | arg :: _ => countArg arg
  let state ← get
  if state.params.length < count then misuse "can't shift that many".toList
  else
    set { state with params := state.params.drop count, options := {} }
    return 0

/-! ## Switches -/

/-- What the switches among some arguments come to. -/
structure SwitchArgs where
  /-- The changes to the switches that are on, the latest first. -/
  changes : List (Switches → Switches) := []
  /-- The switches as listings show them. -/
  listed : Switches
  /-- Listings that were asked for. -/
  output : Octets := []
  /-- The script is an argument. -/
  fromArgument : Bool := false
  /-- The parameters are replaced even if no others follow. -/
  replaces : Bool := false
  complaint : Option Octets := none

namespace SwitchArgs

/-- Changes the switches. -/
def change (s : SwitchArgs) (change : Switches → Switches) : SwitchArgs :=
  { s with changes := change :: s.changes, listed := change s.listed }

/-- Turns the switch of a name, or lists all when no name is given. -/
def turnNamed (s : SwitchArgs) (active : Bool) (name : Option Octets) : SwitchArgs :=
  match name with
  | none =>
    { s with output := s.output ++ if active then s.listed.listing else s.listed.commands }
  | some name =>
    match Switch.ofName? name with
    | some switch => s.change fun switches => switches.turn active switch
    | none => { s with complaint := some ("Illegal option -o ".toList ++ name) }

/-- Turns the switches of some letters; those that need a name take the texts behind. -/
def turnLetters (atStart active : Bool) : SwitchArgs → List Char → List Octets →
    SwitchArgs × List Octets
  | s, [], rest => (s, rest)
  | s, c :: letters, rest =>
    if s.complaint.isSome then (s, rest)
    else if c = 'c' ∧ atStart then
      turnLetters atStart active { s with fromArgument := true } letters rest
    else if c = 'l' ∧ atStart then turnLetters atStart active s letters rest
    else if c = 'o' then
      turnLetters atStart active (s.turnNamed active rest.head?) letters (rest.drop 1)
    else
      match Switch.ofLetter? c with
      | some switch =>
        let turned := s.change fun switches => switches.turnLetter active switch
        turnLetters atStart active turned letters rest
      | none => ({ s with complaint := some ("Illegal option -".toList ++ [c]) }, rest)

/-- Takes the switches at the front of some arguments, and gives the others. -/
def take (atStart : Bool) : Nat → SwitchArgs → List Octets → SwitchArgs × List Octets
  | 0, s, args => (s, args)
  | _, s, [] => (s, [])
  | fuel + 1, s, arg :: rest =>
    if s.complaint.isSome then (s, arg :: rest)
    else
      match arg with
      | ['-'] =>
        let quiet := s.change fun switches => (switches.turn false .xtrace).turn false .verbose
        (if atStart then s else quiet, rest)
      | ['-', '-'] => ({ s with replaces := !atStart && rest.isEmpty }, rest)
      | '-' :: letters =>
        let (s, rest) := turnLetters atStart true s letters rest
        take atStart fuel s rest
      | '+' :: letters =>
        let (s, rest) := turnLetters atStart false s letters rest
        take atStart fuel s rest
      | _ => (s, arg :: rest)

/-- Switches after those among the arguments were turned. -/
def applied (s : SwitchArgs) (switches : Switches) : Switches :=
  s.changes.foldr (fun change all => change all) switches

end SwitchArgs

/-- The complaint of a shell that is to control jobs, which takes a terminal. -/
def noTerminal : Octets := "can't access tty; job control turned off".toList

/-- The variables that satisfy a condition, by name, each as a command sets it. -/
def State.variableLines (state : State) (front : String) (wanted : Variable → Bool) : Octets :=
  let found := state.bindings.filter fun p => wanted p.2
  let sorted := found.mergeSort fun x y => Octets.atMost x.1 y.1
  let space := if front = "" then "" else " "
  sorted.flatMap fun (name, v) =>
    (front ++ space).toList ++ name
      ++ ((v.text.map fun text => '=' :: inQuotes text).getD []) ++ ['\n']

/-- Changes switches and parameters, or lists the variables. -/
def setAll : Builtin := fun args => do
  let state ← get
  if args.isEmpty then
    put (state.variableLines "" fun v => v.text.isSome)
    return 0
  else
    let (s, rest) := SwitchArgs.take false (args.length + 1) { listed := state.switches } args
    put s.output
    let switches := s.applied state.switches
    modify fun state => { state with switches := switches.turn false .monitor }
    if let some message := s.complaint then misuse message
    if switches.contains .monitor then complain noTerminal
    if s.replaces ∨ rest ≠ [] then
      modify fun state => { state with params := rest, options := {} }
    return 0

end LintBroker.Shell
