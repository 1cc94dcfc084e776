/-
  LintBroker.Shell.Copy

  Copies of the shell: what is run in one changes only the world.  Copies run in the
  place of a command, beside the script, or as the parts of a pipeline, each of which
  reads what the one before it writes.
-/
import LintBroker.Shell.Builtin.Jobs
import LintBroker.Shell.Builtin.Output

namespace LintBroker.Shell

open LintBroker.Program LintBroker.Text

/-! ## Streams -/

/-- Adds a stream to the world. -/
def addStream (stream : Stream) : Act Nat := do
  let state ← get
  let (n, world) := state.world.withStream stream
  set { state with world }
  return n

/-- Runs something, and brings the channels back to what they were. -/
def keepingChannels {α : Type} (act : Act α) : Act α := do
  let before := (← get).channels
  let result ← attempt act
  modify fun state => { state with channels := before }
  match result with
  | .ok a => return a
  | .error stop => throw stop

/-- Runs something with other streams for some channels. -/
def withChannels {α : Type} (streams : List (Nat × Nat)) (act : Act α) : Act α :=
  keepingChannels do
    modify fun state => streams.foldl (fun s p => s.bindChannel p.1 p.2) state
    act

/-! ## Copies -/

/-- Sets the status. -/
def setStatus (status : Nat) : Act Unit := modify fun state => { state with status }

/-- A copy of the shell: it keeps no commands for signals but those that ignore them, and it has no
    jobs. -/
def State.copied (state : State) : State :=
  { state with
    isCopy := true, awaited := [], statusBefore := none, jobs := []
    traps := state.traps.filter (·.2 == []) }

/-- How a shell ends that has come to its last command, or was stopped. -/
def outcomeOf (result : Except Stop Unit) (state : State) : Outcome :=
  match result with
  | .ok () => .exited state.status
  | .error (.exit status) => .exited status
  | .error (.back status) => .exited (status.getD state.status)
  | .error (.leave _) => .exited state.status
  | .error (.again _) => .exited state.status
  | .error .misuse => .exited brokenStatus
  | .error (.killed signal) => .ended (.killed signal)
  | .error (.replaced ending) => .ended ending
  | .error .endless => .endless

/-- Runs something as a whole shell, and then what that keeps for its end; `script` runs a text.  A
    shell that is killed, or in the place of which another program was started, runs nothing
    more. -/
def toItsEnd (script : Octets → Act Unit) (act : Act Unit) : Act Outcome := do
  let result ← attempt act
  let state ← get
  let first := outcomeOf result state
  let isOver := match result with
    | .error (.killed _) => true
    | .error (.replaced _) => true
    | _ => false
  match isOver, first, state.farewell with
  | false, .ended (.exited status), some text =>
    -- What is kept for the end is run once only.
    let traps := state.traps.filter (·.1 != 0)
    set { state with status, traps, statusBefore := some status, frames := [], loops := 0 }
    match ← attempt (script text) with
    | .ok () => return first
    | .error stop => return outcomeOf (.error stop) (← get)
  | _, _, _ => return first

/-- Runs something in a copy of the shell; only what it does to the world remains. -/
def inCopy (script : Octets → Act Unit) (act : Act Unit) : Act Outcome := do
  let before ← get
  set before.copied
  let outcome ← toItsEnd script act
  let after ← get
  set { before with world := after.world }
  return outcome

/-- Changes the world. -/
def modifyWorld (change : World → World) : Act Unit :=
  modify fun state => { state with world := change state.world }

/-- The status for an outcome of something that the shell waited for. -/
def awaited (outcome : Outcome) : Act Nat := do
  match outcome with
  | .ended ending => endingStatus false ending
  | .endless => throw .endless

/-- Runs something in a copy of the shell in the place of a command, and gives its status. -/
def inPlace (script : Octets → Act Unit) (act : Act Unit) : Act Nat := do
  let _ ← takeJobNumber
  modifyWorld fun world => world.withProcess.wait World.copyTime
  let status ← awaited (← inCopy script act)
  noticeEnds
  return status

/-- Waits until all processes with a number from some one on have let go of the streams. -/
def awaitStreams (first : Nat) : Act Unit := do
  match (← get).world.lastEnd first with
  | some time => modifyWorld fun world => world.waitUntil time
  | none => throw .endless

/-- The output of something that is run in a copy of the shell, and its status. -/
def outputOf (script : Octets → Act Unit) (act : Act Unit) : Act (Octets × Nat) := do
  let first := (← get).world.nextProcess
  let stream ← addStream (.sink [])
  let status ← withChannels [(outputChannel, stream)] (inPlace script act)
  awaitStreams first
  return ((← get).world.written stream, status)

/-! ## Pipelines -/

/-- A part of a pipeline, and whether it holds none of the streams of the shell while it runs. -/
structure Part where
  act : Act Unit
  detached : Bool

/-- What came of a part of a pipeline: its process, its outcome, when it ended, and whether it wrote
    anything to the next part. -/
structure PartEnd where
  process : Nat
  outcome : Outcome
  time : Nat
  wrote : Bool := false

/-- Runs the parts of a pipeline from the same time on.  Each one reads what the one before it
    wrote; the first one reads a stream that is given, or the input of the shell. -/
def runParts (script : Octets → Act Unit) (beside : Bool) (begin : Nat) (input : Option Nat) :
    List Part → Act (List PartEnd)
  | [] => return []
  | part :: rest => do
    let first := (← get).world.nextProcess
    modifyWorld fun world =>
      { (if beside then world.withWriter else world.withProcess) with clock := begin }
    let channels := input.toList.map fun n => (0, n)
    if rest.isEmpty then
      let outcome ← withChannels channels (inCopy script part.act)
      return [⟨first, outcome, (← get).world.clock, false⟩]
    else
      let pipe ← addStream (.sink [])
      let outcome ← withChannels ((outputChannel, pipe) :: channels) (inCopy script part.act)
      let world := (← get).world
      let text := world.written pipe
      -- The next part sees the end when no process holds the pipe any more.
      let closed := if outcome = .endless then none else world.lastEnd first
      let next ← addStream (.source text closed)
      let others ← runParts script beside begin (some next) rest
      return ⟨first, outcome, world.clock, !text.isEmpty⟩ :: others

/-- When the parts of a pipeline end, from the first one on.  One that never stops writing to the
    next part ends with that. -/
def endTimes : List PartEnd → List (Nat × Option Nat)
  | [] => []
  | part :: rest =>
    let others := endTimes rest
    let next := (others.head?.map (·.2)).getD none
    let time := match part.outcome with
      | .endless => if part.wrote then next else none
      | .ended _ => some part.time
    (part.process, time) :: others

/-- How a pipeline ends: as its last part does. -/
def lastOutcome (parts : List PartEnd) : Outcome :=
  (parts.getLast?.map PartEnd.outcome).getD (.exited 0)

/-- Runs a pipeline and waits for its end. -/
def piped (script : Octets → Act Unit) (parts : List Part) : Act Nat := do
  let _ ← takeJobNumber
  let begin := (← get).world.clock + World.copyTime
  let ends ← runParts script false begin none parts
  (endTimes ends).forM fun (_, time) => do
    match time with
    | some time => modifyWorld fun world => world.waitUntil time
    | none => throw .endless
  let status ← awaited (lastOutcome ends)
  noticeEnds
  return status

/-! ## Beside the script -/

/-- Runs a pipeline beside the script, which goes on at once. -/
def beside (script : Octets → Act Unit) (parts : List Part) : Act Unit := do
  let number ← takeJobNumber
  let before := (← get).world
  let nothing ← addStream (.device false)
  let ends ← runParts script true (before.clock + World.copyTime) (some nothing) parts
  modifyWorld fun world =>
    let world := (endTimes ends).foldl (fun w p => w.withEnd p.1 p.2) world
    let apart := (ends.zip parts).filterMap fun (e, part) =>
      if part.detached then some e.process else none
    { world with
      clock := before.clock, writer := before.writer
      detached := apart ++ world.detached }
  let processes := ends.map PartEnd.process
  let ending := match lastOutcome ends with
    | .ended ending => ending
    | .endless => .killed 9
  let job : Job := { number, processes, ending }
  modify fun state =>
    { state with jobs := job :: state.jobs, latestProcess := processes.getLast?, status := 0 }

end LintBroker.Shell
