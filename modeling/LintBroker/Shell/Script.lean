/-
  LintBroker.Shell.Script

  Running texts: each command line is run before the next one is read.
-/
import LintBroker.Shell.Builtin.Signals
import LintBroker.Shell.ProgramCall
import LintBroker.Shell.Reader

namespace LintBroker.Shell

open LintBroker.Program LintBroker.Text

/-! ## Lines -/

/-- Some lines at the front of a text. -/
def firstLines (count : Nat) (cs : Octets) : Octets :=
  match count with
  | 0 => []
  | n + 1 =>
    let line := cs.takeWhile (· != '\n')
    match cs.drop line.length with
    | [] => line
    | _ :: rest => line ++ '\n' :: firstLines n rest

/-- Where a text that is run comes from: it is a part of a script, a file, or the input of a shell
    that asks for each command. -/
inductive Reading where
  | part
  | file
  | asked
  deriving DecidableEq, Repr

/-- Shows lines of a file that have been read, if the script asks for that. -/
def showLines (reading : Reading) (cs : Octets) : Act Unit := do
  if reading ≠ .part && (← get).has .verbose then
    let _ ← tell complaintChannel cs

/-- Asks for a line, if it is to be asked for; a variable tells how. -/
def ask (reading : Reading) (name : String) : Act Unit := do
  if reading = .asked then
    let _ ← tell complaintChannel (((← get).text? name.toList).getD [])

/-- Reads a text line by line and runs each command line before the next one is read; tells whether
    there was any. -/
def runLines (run : Command → Act Unit) (reading : Reading) : Nat → Cursor → Bool → Act Bool
  | 0, _, any => return any
  | n + 1, cursor, any => do
    ask reading "PS1"
    let state ← get
    match nextLine { cursor with documents := state.documents, aliases := state.aliases } with
    | .error breach => do
      showLines reading (firstLines (breach.line + 1 - cursor.line) cursor.rest)
      set { (← get) with line := breach.line }
      misuse breach.message
    | .ok none => return any
    | .ok (some (command, next)) => do
      set { state with documents := next.documents }
      showLines reading (cursor.rest.take (cursor.rest.length - next.rest.length))
      (List.range (next.line - cursor.line - 1)).forM fun _ => ask reading "PS2"
      let any := match command with
        | .sequence [] => any
        | _ => true
      run command
      runLines run reading n next any

/-- Runs a text.  One without commands succeeds. -/
def runText (run : Command → Act Unit) (reading : Reading) (text : Octets) : Act Unit := do
  if !(← runLines run reading (text.length + 1) { rest := text } false) then setStatus 0

/-- Runs something for a command that complaints name. -/
def runWithin {α : Type} (command : Octets) (act : Act α) : Act α := do
  let before ← get
  set { before with within := some command }
  let result ← attempt act
  modify fun after => { after with within := before.within, line := before.line }
  match result with
  | .ok a => return a
  | .error stop => throw stop

/-- The text of a script with the octets that count. -/
def scriptText (cs : Octets) : Octets := cs.filter (· != '\x00')

/-! ## Files -/

/-- Reads and runs a file in this shell; `return` ends that. -/
def runFile (run : Command → Act Unit) (args : List Octets) : Act Unit := do
  let (_, args) ← takeOptions "" args
  match args with
  | [] => setStatus 0
  | name :: _ =>
    let state ← get
    let isFile (path : Octets) : Bool := state.facts.kind path = some .regular
    let path := if name.contains '/' then some name
      else (pathsOn state.searchPath name).find? isFile
    match path with
    | none => misuse (name ++ ": not found".toList)
    | some path =>
      match state.world.reading state.directory path with
      | .error e => cannotOpen path e
      | .ok stream => do
        let n ← addStream stream
        let text := ((← get).world.unread n).toOption.getD []
        match ← attempt (runWithin path (runText run .file (scriptText text))) with
        | .ok () => return
        | .error (.back status) => setStatus (status.getD (← get).status)
        | .error stop => throw stop

/-! ## Signals -/

/-- Runs what is kept for the signals that have come.  The status stays, unless the function is
    ended with another one. -/
def runAwaited (run : Command → Act Unit) : Act Unit := do
  receiveAll
  let state ← get
  if !state.awaited.isEmpty then
    let status := state.statusBefore.getD state.status
    set { state with awaited := [], statusBefore := some status }
    let result ← attempt (state.awaited.forM (runText run .part))
    modify fun after => { after with status := state.status, statusBefore := state.statusBefore }
    match result with
    | .ok () => return
    | .error stop => throw stop

end LintBroker.Shell
