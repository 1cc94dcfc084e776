/-
  LintBroker.Shell.SimpleCommand

  Simple commands: assignments, a word that says what is run, its arguments, and
  redirections.
-/
import LintBroker.Shell.Meaning
import LintBroker.Shell.Script

namespace LintBroker.Shell

open LintBroker.Program LintBroker.Text

/-- What running simple commands takes: a way to start programs, to run commands, which may be
    tested ones, and to get the output of commands. -/
structure Runner where
  start : Start
  run : Bool → Command → Act Unit
  output : Command → Act Octets

/-! ## What is run -/

/-- What a simple command runs. -/
inductive Callee where
  | nothing
  | builtin
  | function (body : Command)
  | program

/-- What a simple command whose words have been expanded runs: the callee, the fields from its name
    on and those in front of them, whether it is a special command by the first name, and another
    search path if it asks for one. -/
structure Called where
  callee : Callee
  before : List Octets := []
  args : List Octets := []
  special : Bool := false
  searchPath : Option Octets := none

namespace Called

/-- The name of what is run. -/
def name (called : Called) : Octets := called.args.head?.getD []

/-- What is run is the command of the shell with a name. -/
def isBuiltin (called : Called) (name : String) : Bool :=
  match called.callee with
  | .builtin => called.name == name.toList
  | _ => false

end Called

/-- What comes of the fields behind the name of the command that runs others but no functions: there
    is a name among them, more fields are needed, or the command is asked about itself.  The flags
    say that two dashes have ended the options, and that the standard path is searched. -/
inductive Behind where
  | named (fields : List Octets) (standard : Bool)
  | unfinished (ended standard : Bool)
  | itself

/-- Looks for the name of what is run behind options. -/
def behindOptions (ended standard : Bool) : List Octets → Behind
  | [] => .unfinished ended standard
  | field :: rest =>
    match ended, field with
    | false, ['-', '-'] => behindOptions true standard rest
    | false, '-' :: c :: letters =>
      if (c :: letters).all (· == 'p') then behindOptions false true rest else .itself
    | _, _ => .named (field :: rest) standard

/-- The fields from the name of what is run on, and whether it is looked for on the standard path;
    words are expanded as far as that takes.  Gives all fields, too, and the words behind them. -/
def nameBehind (output : Command → Act Octets) (ended standard : Bool) (fields : List Octets) :
    Nat → List Octets → List Word →
      Act (Option (List Octets × Bool) × List Octets × List Word)
  | 0, args, words => return (none, args, words)
  | fuel + 1, args, words => do
    match behindOptions ended standard fields with
    | .named fields standard => return (some (fields, standard), args, words)
    | .itself => return (none, args, words)
    | .unfinished ended standard => do
      let (more, words) ← expandFirst output words
      if more = [] then return (none, args, words)
      else nameBehind output ended standard more fuel (args ++ more) words

/-- Finds out what is run, and gives the words that are still to be expanded.  The fuel bounds how
    often the command is met that runs others. -/
def calleeOf (output : Command → Act Octets) : Nat → Called → List Word → Act (Called × List Word)
  | 0, called, words => return (called, words)
  | fuel + 1, called, words => do
    let name := called.name
    if !LintBroker.Shell.isBuiltin name then return ({ called with callee := .program }, words)
    else if name ≠ "command".toList then return ({ called with callee := .builtin }, words)
    else
      let (found, args, words) ←
        nameBehind output false false (called.args.drop 1) (words.length + 1) called.args words
      match found with
      | none => return ({ called with args, callee := .builtin }, words)
      | some (rest, standard) =>
        let passed := args.take (args.length - rest.length)
        let searchPath := if standard then some standardPath else called.searchPath
        calleeOf output fuel
          { called with before := called.before ++ passed, args := rest, searchPath } words

/-- Expands the words of a simple command and finds out what it runs. -/
def expandCommand (output : Command → Act Octets) (words : List Word) : Act Called := do
  match ← expandFirst output words with
  | ([], _) => return { callee := .nothing }
  | (fields, words) => do
    let name := fields.head?.getD []
    let (called, words) ← match (← get).functions.lookup name with
      | some body => pure ({ callee := .function body, args := fields }, words)
      | none =>
        let called : Called := { callee := .program, args := fields, special := isSpecial name }
        calleeOf output (fields.length + words.length + 1) called words
    let declares := match called.callee with
      | .builtin => declarers.contains called.name
      | _ => false
    let rest ← if declares then expandDeclared output words else expandAll output words
    return { called with args := called.args ++ rest }

/-! ## Variables -/

/-- Runs something that has variables of its own, which are restored after it. -/
def withFrame (act : Act Unit) : Act Unit := do
  modify fun state => { state with frames := {} :: state.frames }
  let result ← attempt act
  modify fun state =>
    match state.frames with
    | [] => state
    | frame :: frames =>
      let restored := frame.covered.foldl (fun s (name, old) => s.restoreVariable name old)
        { state with frames }
      { restored with switches := frame.switches.getD restored.switches }
  match result with
  | .ok () => return
  | .error stop => throw stop

/-- Gives a variable that is given to programs a text. -/
def assignExported (name text : Octets) : Act Unit := do
  assign name text
  modify fun state =>
    match state.getVariable? name with
    | some v => state.putVariable name { v with exported := true }
    | none => state

/-- Makes the assignments in front of a command, one after the other, and gives them as they are
    shown.  Those in front of a special command stay. -/
def makeAssignments (output : Command → Act Octets) (called : Called)
    (assignments : List (Octets × Word)) : Act (List Octets) :=
  assignments.mapM fun (name, word) => do
    let text ← expandAssigned output word
    match called.callee with
    | .nothing => assign name text
    | _ =>
      if called.special then
        -- The program that takes the place of the shell is given them, too.
        if called.isBuiltin "exec" && 1 < called.args.length then assignExported name text
        else assign name text
      else
        makeOwn name
        assignExported name text
    return name ++ '=' :: text

/-! ## Showing commands -/

/-- The text in front of commands that are shown. -/
def traceFront (output : Command → Act Octets) : Act Octets := do
  let front := ((← get).text? "PS4".toList).getD []
  match textWord front with
  | .error _ => return front
  | .ok word => do
    modify fun state => { state with inTrace := true }
    let result ← attempt (expandText output word)
    modify fun state => { state with inTrace := false }
    match result with
    | .ok text => return text
    | .error .misuse => return front
    | .error stop => throw stop

/-- Shows a command on a stream as it is run, if the script asks for that. -/
def showCommand (output : Command → Act Octets) (stream : Option Nat) (fields : List Octets) :
    Act Unit := do
  let state ← get
  if state.has .xtrace && !state.inTrace then
    let front ← traceFront output
    let line := front ++ List.intercalate [' '] fields ++ ['\n']
    modifyWorld fun world =>
      ((stream.map fun n => world.write n line).bind Except.toOption).getD world

/-! ## Running -/

/-- Runs the body of a function with its own parameters. -/
def callFunction (body : Act Unit) (args : List Octets) : Act Unit := do
  let before ← get
  set { before with params := args, loops := 0, options := {} }
  let result ← attempt body
  modify fun after =>
    { after with params := before.params, loops := before.loops, options := before.options }
  match result with
  | .ok () => return
  | .error (.back status) => setStatus (status.getD (← get).status)
  | .error stop => throw stop

/-- Runs a command of the shell, and sets the status. -/
def callBuiltin (runner : Runner) (tested : Bool) (name : Octets) (args : List Octets) :
    Act Unit := do
  match String.ofList name with
  | "eval" =>
    if args = [] then setStatus 0
    else runText (runner.run tested) .part (List.intercalate [' '] args)
  | "." => runFile (runner.run false) args
  | "exec" => if args = [] then setStatus 0 else becomeProgram runner.start args
  | "command" => setStatus (← aboutCommand args)
  | "type" => setStatus (← describeAll args)
  | "hash" => setStatus (← rememberPrograms args)
  | _ =>
    match builtin? name with
    | some builtin => setStatus (← builtin args)
    | none => setStatus unknownName

/-- Runs a command of the shell.  Complaints name it, and so does one more if its output was lost;
    its failure ends the shell only if it is a special one. -/
def runBuiltin (runner : Runner) (tested : Bool) (called : Called) : Act Unit := do
  let result ← attempt <| runWithin called.name do
    callBuiltin runner tested called.name (called.args.drop 1)
    if !(← putPending) then
      complain (called.name ++ ": I/O error".toList)
      modify fun state => { state with status := state.status ||| 1 }
  match result with
  | .ok () => return
  | .error stop => do
    -- What was written before a misuse goes out behind the complaint about it.
    let _ ← putPending
    match stop with
    | .misuse => if called.special then throw .misuse else setStatus brokenStatus
    | stop => throw stop

/-- Runs what a simple command calls. -/
def runCalled (runner : Runner) (tested : Bool) (called : Called) : Act Unit := do
  match called.callee with
  | .nothing => setStatus ((← get).substituted.getD 0)
  | .builtin => do
    runBuiltin runner tested called
    noticeEnds
  | .function body => do
    callFunction (runner.run tested body) (called.args.drop 1)
    noticeEnds
  | .program => programStatus runner.start called.searchPath called.args
  let state ← get
  if state.world.stuck then
    set { state with world := { state.world with stuck := false } }
    throw .endless

/-- Runs a simple command.  Its variables are its own unless it is a special one, and its
    redirections are undone unless it changes the channels of the shell. -/
def simpleCommand (runner : Runner) (tested : Bool) (line : Nat)
    (assignments : List (Octets × Word)) (words : List Word) (redirects : List Redirect) :
    Act Unit := do
  modify fun state => { state with line, substituted := none }
  let called ← expandCommand runner.output words
  -- Commands are shown where complaints went before the redirections.
  let shown := (← get).channels.lookup complaintChannel
  let changes ← redirects.mapM (expandRedirect runner.output)
  let act : Act Unit := do
    if ← applyChanges runner.output changes then
      let given ← makeAssignments runner.output called assignments
      showCommand runner.output shown (given ++ called.before ++ called.args)
      runCalled runner tested called
    -- A special command that cannot be run ends the shell.
    else if called.special then throw .misuse
    else setStatus brokenStatus
  let framed := if called.special || (called.callee matches .nothing) then act else withFrame act
  if called.isBuiltin "exec" then framed else keepingChannels framed

end LintBroker.Shell
