/-
  LintBroker.Shell.ProgramCall

  Programs that a shell runs: they are looked for on the search path, remembered, and
  started in a process of their own or in the place of the shell.
-/
import LintBroker.Program.Start
import LintBroker.Shell.Builtin.Directory
import LintBroker.Shell.Redirection

namespace LintBroker.Shell

open LintBroker.Files LintBroker.Program LintBroker.Text

/-! ## Search -/

/-- The directories in which programs are looked for when the script does not say where. -/
def standardPath : Octets :=
  "/usr/local/sbin:/usr/local/bin:/usr/sbin:/usr/bin:/sbin:/bin".toList

/-- The directories in which programs are looked for. -/
def State.searchPath (state : State) : Octets := (state.text? "PATH".toList).getD []

/-- The paths at which a file may be. -/
def pathsOn (searchPath name : Octets) : List Octets :=
  (splitAt ':' searchPath).map fun directory => underDirectory directory name

/-- The first path at which a program is; else the refusal that counts, which is the last one that
    does not merely say that nothing is there. -/
def State.programPath (state : State) (searchPath name : Octets) : Except SystemError Octets :=
  let disk := state.world.tree.disk state.directory
  let isProgram (path : Octets) : Bool :=
    let text := Octets.toText path
    (disk.kind text).toOption = some .regular && disk.executable text
  let paths := pathsOn searchPath name
  match paths.find? isProgram with
  | some path => .ok path
  | none =>
    .error (paths.foldl (fun e path =>
      match disk.kind (Octets.toText path) with
      | .ok _ => .denied
      | .error other => if other = .noEntry ∨ other = .notDirectory then e else other) .noEntry)

/-- Finds a program and remembers where it is.  What is remembered counts until the directory is
    changed; a function keeps the program of its name from being remembered. -/
def findProgram (name : Octets) : Act (Except SystemError Octets) := do
  let state ← get
  if name.contains '/' then return .ok name
  else
    match state.found.lookup name with
    | some ⟨path, false⟩ => return .ok path
    | _ =>
      let result := state.programPath state.searchPath name
      if (state.functions.lookup name).isSome then return result
      else
        let others := state.found.filter fun p => p.1 != name
        match result with
        | .ok path =>
          let known := (state.found.lookup name).isSome
          let found := if known then
              state.found.map fun p => if p.1 = name then (name, ⟨path, false⟩) else p
            else state.found ++ [(name, ⟨path, false⟩)]
          set { state with found }
        | .error _ => set { state with found := others }
        return result

/-- Finds a program on the search path, or on another one. -/
def findProgramOn (searchPath : Option Octets) (name : Octets) :
    Act (Except SystemError Octets) := do
  match searchPath with
  | none => findProgram name
  | some path =>
    if name.contains '/' then return .ok name else return (← get).programPath path name

/-! ## Start -/

/-- How a program that the shell starts comes out; one that cannot be started is refused. -/
inductive ProgramEnd where
  | ended (outcome : Outcome)
  | refused (e : SystemError)

/-- Starts a program as a process of some number.  Unless its name is a path, it is looked for from
    the path on at which it was found. -/
def runProgram (start : Start) (process parent : Nat) (searchPath : Octets)
    (found : Option Octets) (args : List Octets) : Act ProgramEnd := do
  let state ← get
  let name := args.head?.getD []
  let call : Call :=
    { args, environment := state.environment, directory := state.directory
      channels := state.channels, mask := state.mask, process, parent }
  let world := state.world.wait World.startTime
  let attempted :=
    if name.contains '/' then start.orScript name call world
    else
      let paths := pathsOn searchPath name
      start.first call world .noEntry (match found with
        | some path => paths.dropWhile (· != path)
        | none => paths)
  match attempted with
  | .error e => return .refused e
  | .ok (outcome, world) =>
    set { state with world := { world with stuck := false } }
    return .ended (if world.stuck then .endless else outcome)

/-- The status for a program that cannot be started: it is not there, or it cannot be run. -/
def refusalStatus (e : SystemError) : Nat :=
  if e = .noEntry ∨ e = .notDirectory ∨ e = .circular ∨ e = .nameTooLong then 127 else 126

/-- The complaint about a program that cannot be started. -/
def refusal (name : Octets) (e : SystemError) : Octets :=
  name ++ ": ".toList ++ refusalText e "not found"

/-- Runs a program and sets the status. -/
def programStatus (start : Start) (searchPath : Option Octets) (args : List Octets) :
    Act Unit := do
  let name := args.head?.getD []
  match ← findProgramOn searchPath name with
  | .error e => do
    complain (refusal name e)
    setStatus 127
  | .ok path => do
    let _ ← takeJobNumber
    let state ← get
    modifyWorld World.withProcess
    let searchPath := searchPath.getD state.searchPath
    match ← runProgram start state.world.nextProcess state.process searchPath (some path) args with
    | .ended outcome => setStatus (← awaited outcome)
    | .refused e => do
      complain (refusal name e)
      setStatus (refusalStatus e)
    noticeEnds

/-- Runs a program in the place of the shell. -/
def becomeProgram (start : Start) (args : List Octets) : Act Unit := do
  let state ← get
  match ← runProgram start state.process state.parent state.searchPath none args with
  | .ended (.ended ending) => throw (.replaced ending)
  | .ended .endless => throw .endless
  | .refused e => do
    complain (refusal (args.head?.getD []) e)
    throw (.exit (refusalStatus e))

end LintBroker.Shell
