/-
  LintBroker.Shell.State

  The state of a shell that runs a script, and computations on it.  A computation can
  stop the script, or a part of it, before its end.
-/
import LintBroker.Number.Numeral
import LintBroker.Program.World
import LintBroker.Shell.Grammar
import LintBroker.Shell.Switch

namespace LintBroker.Shell

open LintBroker.Files LintBroker.Number LintBroker.Program LintBroker.Text

/-! ## State -/

/-- A variable: its text if it has one, whether programs are given it, whether it must stay as it
    is, and whether its marks outlast its text. -/
structure Variable where
  text : Option Octets := none
  exported : Bool := false
  fixed : Bool := false
  lasting : Bool := false
  deriving DecidableEq

/-- A command that runs beside the script: its number and its processes, how the last one of them
    ends, whether the shell knows that all have ended, and whether the script has waited for
    them. -/
structure Job where
  number : Nat
  processes : List Nat
  ending : Ending
  known : Bool := false
  awaited : Bool := false
  deriving DecidableEq

/-- A program that was found on the search path: its path, and whether the directory was changed
    since then. -/
structure Found where
  path : Octets
  moved : Bool := false
  deriving DecidableEq

/-- Where the reading of options stands: the number of the next argument, from one on, and the
    letters of the current one that are still to be read. -/
structure OptionPlace where
  next : Nat := 1
  letters : Octets := []
  deriving DecidableEq

/-- What is restored at the end of a command: variables, the latest first, and the switches if that
    was asked for. -/
structure Frame where
  covered : List (Octets × Option Variable) := []
  switches : Option Switches := none
  deriving DecidableEq

/-- All that a running script can change. -/
structure State where
  world : World
  directory : Place
  /-- The path of the directory is given with two slashes in front. -/
  doubled : Bool := false
  /-- The name by which the shell was started. -/
  name : Octets
  params : List Octets := []
  bindings : List (Octets × Variable) := []
  functions : List (Octets × Command) := []
  /-- The words with other texts in their place, in the order of their making. -/
  aliases : List (Octets × Octets) := []
  /-- The programs that were found, in the order of their finding. -/
  found : List (Octets × Found) := []
  /-- The documents of the script. -/
  documents : List Word := []
  /-- The streams of the channels. -/
  channels : List (Nat × Nat) := []
  switches : Switches := []
  /-- The permissions that new files do not get. -/
  mask : Nat := standardMask
  /-- Where the reading of options stands. -/
  options : OptionPlace := {}
  /-- The commands that run beside the script, the latest first. -/
  jobs : List Job := []
  /-- The number of the last process that was started beside the script. -/
  latestProcess : Option Nat := none
  /-- The status of the last command. -/
  status : Nat := 0
  /-- The line of the command that is run, for complaints. -/
  line : Nat := 0
  /-- The status of the last command whose output was put into the words of the current one. -/
  substituted : Option Nat := none
  /-- The status before the command that is kept for a signal or the end, while it runs. -/
  statusBefore : Option Nat := none
  /-- What a command of the shell has written, which goes out when the command ends. -/
  pending : Octets := []
  /-- A text that is written in front of a command is being expanded. -/
  inTrace : Bool := false
  /-- The number of the shell as a process, which copies of it have, too. -/
  process : Nat := 1
  isCopy : Bool := false
  /-- The number of the process that started the shell. -/
  parent : Nat := 0
  /-- What is to be run when a signal comes, by its number; the end of the script has number
      zero. -/
  traps : List (Nat × Octets) := []
  /-- What is to be run for the signals that have come. -/
  awaited : List Octets := []
  /-- The command of the shell that runs the current text. -/
  within : Option Octets := none
  /-- The loops and functions that are being run. -/
  loops : Nat := 0
  /-- For each command that is being run, what is to be restored after it. -/
  frames : List Frame := []

/-- What stops a script or a part of it. -/
inductive Stop where
  /-- The shell ends with a status. -/
  | exit (status : Nat)
  /-- So many loops are left. -/
  | leave (count : Nat)
  /-- So many loops but one are left, and that one goes on with its next round. -/
  | again (count : Nat)
  /-- The function ends, with a status if one was given. -/
  | back (status : Option Nat)
  /-- Something cannot go on: the command of the shell that it is a part of has failed. -/
  | misuse
  /-- The shell was killed. -/
  | killed (signal : Nat)
  /-- Another program took the place of the shell, and ended. -/
  | replaced (ending : Ending)
  /-- The script never ends. -/
  | endless
  deriving DecidableEq, Repr

/-- Computations on the state of a shell; what was done before a stop is kept. -/
abbrev Act := ExceptT Stop (StateM State)

/-- Runs a computation to its end or its stop. -/
def attempt {α : Type} (act : Act α) : Act (Except Stop α) := fun state =>
  let (result, after) := act.run state
  (.ok result, after)

/-! ## Jobs -/

/-- The number by which the system knows a process. -/
def processNumber (process : Nat) : Nat := 4241 + process

/-- All processes of a job have ended. -/
def Job.hasEnded (job : Job) (world : World) : Bool := job.processes.all world.hasEnded

/-- Takes note of the jobs that have ended. -/
def noticeEnds : Act Unit := modify fun state =>
  { state with
    jobs := state.jobs.map fun j => { j with known := j.known || j.hasEnded state.world } }

/-- The first number from some one on that no job has, or one that is done with.  The fuel is the
    number of jobs. -/
def freeNumber (jobs : List Job) : Nat → Nat → Nat
  | 0, n => n
  | fuel + 1, n =>
    if jobs.any fun j => j.number = n && !(j.awaited && j.known) then freeNumber jobs fuel (n + 1)
    else n

/-- Makes room for a job, and gives its number. -/
def takeJobNumber : Act Nat := do
  let state ← get
  let n := freeNumber state.jobs state.jobs.length 1
  set { state with jobs := state.jobs.filter fun j => j.number != n }
  return n

/-! ## Channels -/

/-- The channel of the output. -/
def outputChannel : Nat := 1

/-- The channel for complaints. -/
def complaintChannel : Nat := 2

/-- Writes to a channel; false if that takes nothing. -/
def tell (channel : Nat) (cs : Octets) : Act Bool := do
  let state ← get
  match (state.channels.lookup channel).map fun n => state.world.write n cs with
  | some (.ok world) =>
    set { state with world }
    return true
  | _ => return cs.isEmpty

/-- Writes a complaint with the name of the shell, the line and the name of a command. -/
def complainAs (command : Option Octets) (message : Octets) : Act Unit := do
  let state ← get
  let front := state.name ++ ": ".toList ++ natChars state.line ++ ": ".toList
  let name := (command.map (· ++ ": ".toList)).getD []
  let _ ← tell complaintChannel (front ++ name ++ message ++ ['\n'])

/-- Writes a complaint. -/
def complain (message : Octets) : Act Unit := do complainAs (← get).within message

/-- The status of a shell that cannot go on. -/
def brokenStatus : Nat := 2

/-- Complains about something that cannot go on. -/
def misuse {α : Type} (message : Octets) : Act α := do
  complain message
  throw .misuse

/-- A switch is on. -/
def State.has (state : State) (s : Switch) : Bool := state.switches.contains s

/-- What is to be run at the end of the script. -/
def State.farewell (state : State) : Option Octets := state.traps.lookup 0

/-- Binds a channel to a stream. -/
def State.bindChannel (state : State) (channel stream : Nat) : State :=
  { state with channels := (channel, stream) :: state.channels.filter fun p => p.1 != channel }

/-! ## Variables -/

namespace State

/-- The variable of a name. -/
def getVariable? (state : State) (name : Octets) : Option Variable := state.bindings.lookup name

/-- The text of a variable. -/
def text? (state : State) (name : Octets) : Option Octets :=
  (state.getVariable? name).bind Variable.text

/-- Bindings with a variable of a name; one that is there keeps its place. -/
def put (name : Octets) (v : Variable) : List (Octets × Variable) → List (Octets × Variable)
  | [] => [(name, v)]
  | (n, w) :: rest => if n = name then (n, v) :: rest else (n, w) :: put name v rest

/-- What a change of a variable leads to: options are read anew, and programs are searched for
    anew. -/
def afterChange (state : State) (name : Octets) (text : Option Octets) : State :=
  if name = "OPTIND".toList then
    let digits := (text.getD []).takeWhile Char.isDigit
    { state with options := { next := max 1 (digitsValue 10 digits) } }
  else if name = "PATH".toList then { state with found := [] }
  else state

/-- Puts a variable in the place of the one with that name. -/
def putVariable (state : State) (name : Octets) (v : Variable) : State :=
  { state.afterChange name v.text with bindings := put name v state.bindings }

/-- Takes the text of a variable away, and the variable unless its marks outlast that. -/
def dropVariable (state : State) (name : Octets) : State :=
  match state.getVariable? name with
  | some v =>
    if v.lasting then state.putVariable name { v with text := none }
    else
      { state.afterChange name none with bindings := state.bindings.filter fun p => p.1 != name }
  | none => state

/-- Brings a variable back to what it was. -/
def restoreVariable (state : State) (name : Octets) (old : Option Variable) : State :=
  match old with
  | some v => state.putVariable name v
  | none =>
    match state.getVariable? name with
    | some v => (state.putVariable name { v with lasting := false }).dropVariable name
    | none => state

/-- The row of a table with so many rows that a name is kept in.  Tables are listed row by row. -/
def tableRow (rows : Nat) (name : Octets) : Nat :=
  ((name.head?.map fun c => 16 * c.toNat).getD 0 + name.foldl (fun n c => n + c.toNat) 0) % rows

/-- The rows of the tables of variables and of aliases. -/
def tableRows : Nat := 39

/-- Named things in the order in which a table with so many rows lists them. -/
def tableOrder {α : Type} (rows : Nat) (entries : List (Octets × α)) : List (Octets × α) :=
  entries.mergeSort fun x y => tableRow rows x.1 ≤ tableRow rows y.1

/-- The variables that programs are given. -/
def environment (state : State) : List (Octets × Octets) :=
  (tableOrder tableRows state.bindings).filterMap fun p =>
    if p.2.exported then p.2.text.map fun text => (p.1, text) else none

/-- The octets at which expanded texts are cut into fields. -/
def separators (state : State) : Octets := (state.text? "IFS".toList).getD [' ', '\t', '\n']

/-- The absolute path of the directory. -/
def directoryText (state : State) : Octets :=
  (if state.doubled then ['/'] else []) ++ Octets.ofText ("/" ++ "/".intercalate state.directory)

/-- The value of a parameter other than the list of all. -/
def parameter? (state : State) (name : Octets) : Option Octets :=
  match name with
  | ['#'] => some (natChars state.params.length)
  | ['?'] => some (natChars state.status)
  | ['$'] => some (natChars (processNumber state.process))
  | ['!'] => state.latestProcess.map fun n => natChars (processNumber n)
  | ['-'] => some state.switches.letters
  | _ =>
    if name.all Char.isDigit then
      match digitsValue 10 name with
      | 0 => some state.name
      | n + 1 => state.params[n]?
    else state.text? name

/-- A variable that was put has its text. -/
theorem text?_putVariable (state : State) (name : Octets) (v : Variable) :
    (state.putVariable name v).text? name = v.text := by
  have found (bindings : List (Octets × Variable)) :
      (put name v bindings).lookup name = some v := by
    induction bindings with
    | nil => simp [put]
    | cons p rest ih =>
      obtain ⟨n, w⟩ := p
      by_cases h : n = name
      · simp [put, h]
      · have : (name == n) = false := by simpa using fun e => h e.symm
        simpa only [put, h, if_false, List.lookup_cons, this, cond_false] using ih
  simp [putVariable, text?, getVariable?, found]

end State

/-- The whole number that a text writes in base ten, between blanks and with a sign. -/
def wholeText? (cs : Octets) : Option Int :=
  let trimmed := cs.dropWhile isSpace
  let (negative, rest) := match trimmed with
    | '-' :: rest => (true, rest)
    | '+' :: rest => (false, rest)
    | _ => (false, trimmed)
  let digits := rest.takeWhile Char.isDigit
  let after := rest.drop digits.length
  if digits = [] ∨ !(after.all isSpace) then none
  else
    let n : Int := digitsValue 10 digits
    let n := if negative then -n else n
    if -Int.pow 2 63 ≤ n ∧ n < Int.pow 2 63 then some n else none

/-- The octets beyond which a text counts as endless. -/
def textBound : Nat := 4000000

/-- Gives a variable a text; one that must stay as it is ends the shell. -/
def assign (name text : Octets) : Act Unit := do
  if !(text.drop textBound).isEmpty then throw .endless
  let state ← get
  let old := (state.getVariable? name).getD {}
  if old.fixed then misuse (name ++ ": is read only".toList)
  else if name = "OPTIND".toList ∧ !((wholeText? text).any (0 ≤ ·)) then
    misuse ("Illegal number: ".toList ++ text)
  else
    let exported := old.exported || state.has .allexport
    set (state.putVariable name { old with text := some text, exported })

/-- Makes a variable one that is restored at the end of the command. -/
def makeOwn (name : Octets) : Act Unit := modify fun state =>
  match state.frames with
  | [] => state
  | frame :: frames =>
    let old := state.getVariable? name
    { state with
      frames := { frame with covered := (name, old) :: frame.covered } :: frames
      bindings := State.put name { old.getD {} with lasting := true } state.bindings }

end LintBroker.Shell
