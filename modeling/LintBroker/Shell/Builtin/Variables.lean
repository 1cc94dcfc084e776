/-
  LintBroker.Shell.Builtin.Variables

  The commands that mark, make and take away variables, and the one that reads options
  from the parameters.
-/
import LintBroker.Shell.Builtin.Control

namespace LintBroker.Shell

open LintBroker.Number LintBroker.Text

/-! ## Marks -/

/-- The name and the text of an argument that assigns. -/
def assignmentArg (cs : Octets) : Octets × Option Octets :=
  let name := cs.takeWhile (· != '=')
  match cs.drop name.length with
  | _ :: text => (name, some text)
  | [] => (name, none)

/-- Changes variables, each after its assignment if the argument has one; without arguments, or when
    that is asked for, lists those that a change has been made to. -/
def mark (command : String) (change : Variable → Variable) (changed : Variable → Bool) : Builtin :=
  fun args => do
    let (options, names) ← takeOptions "p" args
    if gives options 'p' ∨ names = [] then put ((← get).variableLines command changed)
    else
      names.forM fun arg => do
        let (name, text) := assignmentArg arg
        if !isName name then misuse (name ++ ": bad variable name".toList)
        match text with
        | some text => assign name text
        | none => pure ()
        modify fun state =>
          state.putVariable name (change ((state.getVariable? name).getD {}))
    return 0

/-- Gives variables to programs. -/
def giveToPrograms : Builtin :=
  mark "export" (fun v => { v with exported := true }) Variable.exported

/-- Keeps variables as they are. -/
def keepFixed : Builtin := mark "readonly" (fun v => { v with fixed := true }) Variable.fixed

/-! ## Ends -/

/-- Takes variables or functions away. -/
def unset : Builtin := fun args => do
  let (options, names) ← takeOptions "vf" args
  let functions := (options.getLast?.map (·.1)) == some 'f'
  names.forM fun name => do
    let state ← get
    if functions then set { state with functions := state.functions.filter fun p => p.1 != name }
    else if !isName name then misuse (name ++ ": bad variable name".toList)
    else if ((state.getVariable? name).map Variable.fixed).getD false then
      misuse (name ++ ": is read only".toList)
    else set (state.dropVariable name)
  return 0

/-- Keeps the switches, which are restored at the end of the function. -/
def keepSwitches : Act Unit := modify fun state =>
  match state.frames with
  | [] => state
  | frame :: frames =>
    { state with
      frames := { frame with switches := some (frame.switches.getD state.switches) } :: frames }

/-- Makes variables that are restored at the end of the function; a dash stands for the
    switches. -/
def makeLocal : Builtin := fun args => do
  if (← get).frames.isEmpty then misuse "not in a function".toList
  args.forM fun arg => do
    if arg = ['-'] then keepSwitches
    else
      match assignmentArg arg with
      | (name, some text) => do
        makeOwn name
        assign name text
      | (name, none) =>
        if isName name then makeOwn name
        else misuse (name ++ ": bad variable name".toList)
  return 0

/-! ## Options of the parameters -/

/-- One step in the reading of options: the option that was read (a question mark or a colon tells
    what is wrong with it), its argument, a complaint, where the reading stands now, and whether the
    options have ended. -/
structure OptionStep where
  option : Char := '?'
  argument : Option (Option Octets) := none
  complaint : Octets := []
  place : OptionPlace
  ended : Bool := false

/-- Reads the next option among some arguments.  A colon at the front of the known letters keeps the
    complaints back and tells the wrong letter as the argument. -/
def nextOption (known : List Char) (args : List Octets) (place : OptionPlace) : OptionStep :=
  let current : Option (Char × List Char × Nat) :=
    match place.letters with
    | c :: letters => some (c, letters, place.next)
    | [] =>
      match args[place.next - 1]? with
      | some ('-' :: c :: letters) => some (c, letters, place.next + 1)
      | _ => none
  match current with
  | none => { place := { next := place.next }, ended := true }
  | some (c, letters, next) =>
    if c = '-' ∧ letters = [] ∧ place.letters = [] then { place := { next }, ended := true } else
    match takesOption? known c with
    | none => unknown c letters next
    | some false => { option := c, argument := some (some []), place := { next, letters } }
    | some true =>
      if letters ≠ [] then { option := c, argument := some (some letters), place := { next } }
      else
        match args[next - 1]? with
        | some argument =>
          { option := c, argument := some (some argument), place := { next := next + 1 } }
        | none =>
          if silent then { option := ':', argument := some (some [c]), place := { next } }
          else
            { argument := some none, complaint := "No arg for -".toList ++ c :: " option\n".toList
              place := { next } }
where
  /-- The complaints are kept back. -/
  silent : Bool := known.head? == some ':'
  /-- A letter among the known ones, and whether it takes an argument. -/
  takesOption? (known : List Char) (c : Char) : Option Bool :=
    match known with
    | [] => none
    | k :: ':' :: rest => if k = c then some true else takesOption? rest c
    | k :: rest => if k = c then some false else takesOption? rest c
  /-- A letter that is not known. -/
  unknown (c : Char) (letters : List Char) (next : Nat) : OptionStep :=
    if silent then { argument := some (some [c]), place := { next, letters } }
    else
      { argument := some none, complaint := "Illegal option -".toList ++ [c, '\n']
        place := { next, letters } }

/-- Reads the next option of the parameters, or of the arguments that are given, into a variable. -/
def readOption : Builtin := fun args => do
  match args with
  | known :: name :: given => do
    let state ← get
    let args := if given = [] then state.params else given
    let place := if args.length + 1 < state.options.next then {} else state.options
    let step := nextOption known args place
    let _ ← tell complaintChannel step.complaint
    match step.argument with
    | some (some text) => assign "OPTARG".toList text
    | some none => modify fun state => state.dropVariable "OPTARG".toList
    | none => pure ()
    assign "OPTIND".toList (natChars step.place.next)
    modify fun state => { state with options := step.place }
    assignNamed name [step.option]
    return statusOf !step.ended
  | _ => misuse "Usage: getopts optstring var [arg...]".toList

end LintBroker.Shell
