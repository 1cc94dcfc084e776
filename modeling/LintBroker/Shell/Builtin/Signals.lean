/-
  LintBroker.Shell.Builtin.Signals

  The commands that send signals and that keep commands for them.
-/
import LintBroker.Shell.Builtin.Basic
import LintBroker.Program.Signal

namespace LintBroker.Shell

open LintBroker.Number LintBroker.Program LintBroker.Text

/-! ## Sending -/

/-- What a signal does to the shell. -/
def receive (signal : Nat) : Act Unit := do
  let state ← get
  match (state.traps.lookup signal).filter fun _ => isTrappable signal with
  | some [] => return
  | some action => set { state with awaited := state.awaited ++ [action] }
  | none =>
    match signalEffect signal with
    | .none => return
    | .kills => throw (.killed signal)
    | .halts => throw .endless

/-- Takes the signals that other processes sent to the shell. -/
def receiveAll : Act Unit := do
  let state ← get
  if !state.isCopy && !state.world.signals.isEmpty then
    let (own, others) := state.world.signals.partition fun p => p.1 == state.process
    set { state with world := { state.world with signals := others } }
    own.forM fun p => receive p.2

/-- Sends a signal to a shell that waits for this one, or to this one. -/
def sendShell (process signal : Nat) : Act Nat := do
  let state ← get
  if process = state.process ∧ !state.isCopy then receive signal
  else
    let signals := state.world.signals ++ [(process, signal)]
    set { state with world := { state.world with signals } }
  return 0

/-- The signals that commands beside a script ignore: those of a terminal. -/
def isIgnoredBeside (signal : Nat) : Bool := signal == 2 || signal == 3

/-- Sends a signal to a process of a job.  One that ends it ends what it writes, too. -/
def sendJob (signal process : Nat) (job : Job) : Act Nat := do
  let state ← get
  if state.world.hasEnded process ∨ isIgnoredBeside signal then return 0
  else
    match signalEffect signal with
    | .kills =>
      let isLast := job.processes.getLast? = some process
      let jobs := state.jobs.map fun j =>
        if isLast ∧ j.number = job.number then { j with ending := .killed signal } else j
      set { state with jobs, world := state.world.stop process }
      return 0
    | _ => return 0

/-- Sends a signal to a process. -/
def send (signal : Nat) (target : Octets) : Act Nat := do
  let state ← get
  let missing : Act Nat := do
    complain "No such process\n".toList
    return 1
  match target with
  | '%' :: _ => missing
  | '-' :: digits => do
    let _ ← countArg digits
    missing
  | _ => do
    let n ← countArg target
    if n = processNumber state.process ∨ n = 0 then sendShell state.process signal
    else if n = processNumber state.parent ∧ state.parent ≠ 0 then sendShell state.parent signal
    else
      let found := state.jobs.findSome? fun job =>
        (job.processes.find? fun process => processNumber process = n).map fun p => (p, job)
      match found with
      | some (process, job) => if job.awaited then missing else sendJob signal process job
      | none => missing

/-- How signals are sent. -/
def killUsage : Octets :=
  "Usage: kill [-s sigspec | -signum | -sigspec] [pid | job]... or\nkill -l [exitstatus]".toList

/-- The signal that is sent unless another one is named. -/
def standardSignal : Nat := 15

/-- Lists the names of the signals, or gives the name for a number or a status. -/
def listSignals (args : List Octets) : Act Nat := do
  match args with
  | [] => do
    put ("0\n".toList ++ (signalNames.drop 1).flatMap fun name => (name ++ "\n").toList)
    return 0
  | arg :: _ => do
    let n ← countArg arg
    let n := if signalStatusBase < n then n - signalStatusBase else n
    match if n = 0 then none else signalNames[n]? with
    | some name => do
      put (name ++ "\n").toList
      return 0
    | none => misuse ("invalid signal number or exit status: ".toList ++ arg)

/-- Sends a signal to processes. -/
def kill : Builtin := fun args => do
  let toAll (signal : Nat) (targets : List Octets) : Act Nat := do
    if targets = [] then misuse killUsage
    else targets.foldlM (fun status target => do
      return max status (← send signal target)) 0
  match args with
  | ('-' :: name) :: rest =>
    match signalNumber? false name with
    | some n => toAll n rest
    | none => do
      let (options, targets) ← takeOptions "ls:" args
      let named ← options.filterMapM fun (c, text) => do
        if c = 's' then
          match signalNumber? false text with
          | some n => return some n
          | none => misuse ("invalid signal number or name: ".toList ++ text)
        else return none
      if gives options 'l' then listSignals targets
      else toAll (named.getLast?.getD standardSignal) targets
  | targets => toAll standardSignal targets

/-! ## Keeping commands -/

/-- Keeps commands for the end of the script and for signals, takes them back, or lists them. -/
def trap : Builtin := fun args => do
  let (_, args) ← takeOptions "" args
  match args with
  | [] => do
    let kept := (← get).traps.mergeSort fun x y => x.1 ≤ y.1
    put (kept.flatMap fun (n, action) => "trap -- ".toList ++ inQuotes action ++ ' ' ::
      (signalNames[n]?.getD "").toList ++ ['\n'])
    return 0
  | first :: rest => do
    let digits := first ≠ [] ∧ first.all Char.isDigit
    let (action, conditions) : Option Octets × List Octets :=
      if rest = [] ∨ digits then (none, args)
      else if first = ['-'] then (none, rest) else (some first, rest)
    keep action conditions
where
  /-- Keeps a command for some conditions, up to the first one that is none. -/
  keep (action : Option Octets) : List Octets → Act Nat
    | [] => return 0
    | condition :: rest => do
      match signalNumber? true condition with
      | none => do
        let _ ← tell complaintChannel ("trap: ".toList ++ condition ++ ": bad trap\n".toList)
        return 1
      | some n => do
        modify fun state =>
          let others := state.traps.filter fun p => p.1 != n
          { state with
            traps := match action with
              | some action => (n, action) :: others
              | none => others }
        keep action rest

end LintBroker.Shell
