/-
  LintBroker.Shell.Interpreter

  The shell as a program: its arguments, the state in which it begins, and where its
  script is.
-/
import LintBroker.Shell.Run

namespace LintBroker.Shell

open LintBroker.Number LintBroker.Program LintBroker.Text

/-! ## Running scripts -/

/-- How deeply commands can be nested while they run. -/
def depthLimit : Nat := 1000

/-- How often a shell that is not to be ended by the end of its input says so. -/
def endReminders : Nat := 50

/-- Tells how to leave the shell, again and again, if the end of the input is not to end it. -/
def remind : Act Unit := do
  if (← get).has .ignoreeof then
    let _ ← tell complaintChannel
      ((List.replicate endReminders "\nUse \"exit\" to leave shell.\n".toList).flatten)

/-- A text that a shell runs, and whether it is read from a file. -/
structure Script where
  text : Octets
  ofFile : Bool

/-- Runs a text of a shell.  At the end of what it asked for, a shell goes to the next line. -/
def Script.run (run : Command → Act Unit) (script : Script) : Act Unit := do
  if !script.ofFile then runText run .part script.text
  else if (← get).has .interactive then
    runText run .asked script.text
    remind
    let _ ← tell complaintChannel ['\n']
  else
    runText run .file script.text
    remind

/-- Runs the texts of a shell one after the other, and then what it keeps for its end. -/
def runScripts (start : Start) (scripts : List Script) (state : State) : Outcome × World :=
  let run : Command → Act Unit := run start depthLimit false
  match (toItsEnd (runText run .part) (scripts.forM (Script.run run))).run state with
  | (.ok outcome, after) => (outcome, after.world)
  | (.error stop, after) => (outcomeOf (.error stop) after, after.world)

/-! ## The state at the beginning -/

/-- The variables that every shell has, with their texts. -/
def firstVariables : List (String × Option String) := [
    ("IFS", some " \t\n"), ("MAIL", none), ("MAILPATH", none),
    ("PATH", some (String.ofList standardPath)), ("PS1", some "# "), ("PS2", some "> "),
    ("PS4", some "+ "), ("OPTIND", some "1") ]

/-- The state in which a shell begins. -/
def State.ofCall (call : Call) (world : World) (name : Octets) (params : List Octets)
    (switches : Switches) : State :=
  let bindings := firstVariables.map fun p =>
    let v : Variable := { text := p.2.map String.toList, lasting := true }
    (p.1.toList, v)
  let state : State :=
    { world, directory := call.directory, name, params, channels := call.channels, switches
      bindings, mask := call.mask, process := call.process, parent := call.parent }
  let give (state : State) (name text : Octets) (exported : Bool) : State :=
    let old := (state.getVariable? name).getD {}
    state.putVariable name { old with text := some text, exported := old.exported || exported }
  let given := call.environment.filter fun p => isName p.1
  let state := given.foldl (fun s p => give s p.1 p.2 true) state
  let state := give state "IFS".toList [' ', '\t', '\n'] false
  let state := give state "OPTIND".toList ['1'] false
  let state := give state "PPID".toList (natChars (processNumber call.parent)) false
  give state "PWD".toList state.directoryText true

/-! ## Arguments -/

/-- The switches that a shell cannot turn on without a terminal. -/
def needsTerminal (switches : Switches) : Bool :=
  switches.contains .monitor || switches.contains .interactive

/-- The shell as a program: it runs a text, a file, or its input. -/
def interpret (start : Start) (call : Call) (world : World) : Outcome × World :=
  let self := call.args.head?.getD []
  let args := call.args.drop 1
  let (given, args) :=
    SwitchArgs.take true (args.length + 1) { listed := Switch.table.map (·.1) } args
  let switches := given.applied []
  let complained (name message : Octets) (world : World) : World :=
    call.write complaintChannel (name ++ ": 0: ".toList ++ message ++ ['\n']) world
  let broken (message : Octets) (world : World) : Outcome × World :=
    (.exited brokenStatus, complained self message world)
  let world := call.write outputChannel given.output world
  let input (world : World) : Script × World :=
    let (text, world) := call.readAll 0 world
    (⟨scriptText text, true⟩, world)
  let run (scripts : List Script) (world : World) (name : Octets) (params : List Octets)
      (switches : Switches) : Outcome × World :=
    let world := if needsTerminal switches then complained name noTerminal world else world
    runScripts start scripts (.ofCall call world name params (switches.turn false .monitor))
  let runInput : Outcome × World :=
    let (script, world) := input world
    run [script] world self args (switches.turn true .stdin)
  match given.complaint with
  | some message => broken message world
  | none =>
    if given.fromArgument then
      match args with
      | [] => broken "-c requires an argument".toList world
      | script :: rest =>
        let (more, world) := if switches.contains .stdin then
            let (script, world) := input world
            ([script], world)
          else ([], world)
        run (⟨script, false⟩ :: more) world (rest.head?.getD self) (rest.drop 1) switches
    else if switches.contains .stdin then runInput
    else
      match args with
      | [] => runInput
      | file :: params =>
        match world.reading call.directory file with
        | .error e =>
          broken ("cannot open ".toList ++ file ++ ": ".toList ++ refusalText e "No such file")
            world
        | .ok stream =>
          let (n, opened) := world.withStream stream
          let text := (opened.unread n).toOption.getD []
          run [⟨scriptText text, true⟩] world file params switches

end LintBroker.Shell
