/-
  LintBroker.Shell.Builtin.Jobs

  The commands about what runs beside the script.
-/
import LintBroker.Shell.Builtin.Basic
import LintBroker.Program.Signal

namespace LintBroker.Shell

open LintBroker.Number LintBroker.Program LintBroker.Text

/-! ## Jobs by name -/

/-- The job that a text names: by its number behind a percent sign, or as the latest one or the one
    before. -/
def job (name : Option Octets) : Act Job := do
  let jobs := (← get).jobs
  let orElse (found : Option Job) (message : Octets) : Act Job := do
    match found with
    | some j => return j
    | none => misuse message
  let current := orElse jobs.head? "No current job".toList
  match name with
  | none => current
  | some ['%'] => current
  | some ['%', '+'] => current
  | some ['%', '%'] => current
  | some ['%', '-'] => orElse (jobs.drop 1).head? "No previous job".toList
  | some text =>
    let found := match text with
      | '%' :: digits =>
        if digits.all Char.isDigit then jobs.find? fun j => j.number = digitsValue 10 digits
        else none
      | _ => none
    orElse found ("No such job: ".toList ++ text)

/-! ## Waiting -/

/-- Waits for the end of a job. -/
def awaitJob (j : Job) : Act Unit := do
  let state ← get
  if j.processes.any fun n => (state.world.endOf n).isNone then throw .endless
  else
    let world := j.processes.foldl (fun world n =>
      world.waitUntil ((world.endOf n).getD 0)) state.world
    let jobs := state.jobs.map fun k =>
      if k.number = j.number then { k with known := true, awaited := true } else k
    set { state with jobs, world }

/-- The status that tells an ending.  A signal that ended something may be named in a complaint,
    unless it is known already. -/
def endingStatus (known : Bool) (ending : Ending) : Act Nat := do
  match ending with
  | .exited status => return status
  | .killed signal =>
    match if known then none else signalNotice? signal with
    | some notice =>
      let _ ← tell complaintChannel (notice.toList ++ ['\n'])
    | none => pure ()
    return signalStatusBase + signal

/-- The status for a job that is not there. -/
def noJobStatus : Nat := 127

/-- Waits for jobs, or for all. -/
def awaitJobs : Builtin := fun args => do
  let (_, names) ← takeOptions "" args
  match names with
  | [] => do
    (← get).jobs.forM awaitJob
    return 0
  | _ =>
    names.foldlM (fun _ name => do
      let found ←
        if name.head? = some '%' then some <$> job (some name)
        else do
          let n ← countArg name
          pure ((← get).jobs.find? fun j => (j.processes.getLast?.map processNumber) = some n)
      match found with
      | none => return noJobStatus
      | some j => do
        awaitJob j
        endingStatus j.known j.ending) 0

/-! ## Listing -/

/-- What a listing says about the state of a job. -/
def jobState (ended : Bool) (ending : Ending) : String :=
  if !ended then "Running"
  else
    match ending with
    | .exited 0 => "Done"
    | .exited status => "Done(" ++ natText status ++ ")"
    | .killed signal => (signalNotice? signal).getD ""

/-- The line about a job. -/
def jobLine (withProcess : Bool) (mark : Char) (ended : Bool) (j : Job) : Octets :=
  let front := '[' :: natChars j.number ++ [']', ' ', mark, ' ']
  let numbers := j.processes.map fun n => natChars (processNumber n)
  let process := if withProcess then (numbers.head?.getD []) ++ [' '] else []
  let text := front ++ process ++ (jobState ended j.ending).toList
  let filled := text ++ List.replicate (max 1 (33 - text.length)) ' '
  let more := (numbers.drop 1).flatMap fun number =>
    if withProcess then
      let column := List.replicate front.length ' ' ++ number ++ [' ']
      " |\n".toList ++ column ++ List.replicate (max 1 (33 - column.length)) ' '
    else " | ".toList
  filled ++ more ++ ['\n']

/-- Lists jobs, or all.  What has ended is not listed again. -/
def listJobs : Builtin := fun args => do
  let (options, names) ← takeOptions "lp" args
  noticeEnds
  let state ← get
  let chosen ←
    if names = [] then pure state.jobs else names.mapM fun name => job (some name)
  chosen.forM fun j => do
    let mark := if (state.jobs[0]?.map Job.number) == some j.number then '+'
      else if (state.jobs[1]?.map Job.number) == some j.number then '-' else ' '
    let ended := j.hasEnded state.world
    let last := (options.getLast?.map (·.1)).getD ' '
    if last = 'p' then put (natChars (processNumber (j.processes.head?.getD 0)) ++ ['\n'])
    else
      put (jobLine (last == 'l') mark ended j)
      if ended then
        modify fun state =>
          { state with jobs := state.jobs.filter fun k => k.number != j.number }
  return 0

/-- Refuses to continue a job, which takes a shell that controls them. -/
def continueJob : Builtin := fun args => do
  let (_, names) ← takeOptions "" args
  let _ ← job names.head?
  misuse ("job ".toList ++ names.head?.getD "(null)".toList
    ++ " not created under job control".toList)

end LintBroker.Shell
