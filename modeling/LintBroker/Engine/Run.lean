/-
  LintBroker.Engine.Run

  Running an engine: its argument list is logged and started, and it is given the time
  that its settings allow.
-/
import LintBroker.Engine.Command
import LintBroker.Program.Launch
import LintBroker.Traced

namespace LintBroker

open LintBroker.Journal LintBroker.Number LintBroker.Program LintBroker.Shell LintBroker.Text

/-! ## Time limits -/

/-- The milliseconds that starting a program takes at least. -/
def startingTime : Nat := 2

/-- A span that is over at once: it is zero, below zero or no number. -/
def Seconds.isOver : Seconds → Bool
  | .whole n => n ≤ 0
  | .real x => !x.positive

/-- A time of so many milliseconds is within a span. -/
def Seconds.covers (span : Seconds) (milliseconds : Nat) : Bool :=
  match span with
  | .whole n => (milliseconds : Int) ≤ n * 1000
  | .real .nan => false
  | .real (.infinite negative) => !negative
  | .real (.finite negative m) => !negative && Magnitude.unitsPerOne * milliseconds ≤ 1000 * m.units

/-- A whole span is too large to be counted with. -/
def Seconds.isTooLarge : Seconds → Bool
  | .whole n => (Binary64.ofInt? n).isNone
  | .real _ => false

/-- A process ends within the time that an engine is given.  Without a limit every process does. -/
def endsInTime (limit : Option Seconds) (duration : Option Nat) : Bool :=
  match limit, duration with
  | none, _ => true
  | some span, some milliseconds => span.covers (milliseconds + startingTime)
  | some _, none => false

/-! ## Running -/

/-- The record of the argument list that is started. -/
def runRecord (engine : Engine) (command : List String) : Record :=
  { logger := loggerOf "engines", level := .debug
    message := "Running engine " ++ engine.name ++ ": " ++ joinWords command }

/-- The complaint about a program that cannot be started. -/
def launchFailure (engine : Engine) (program : String) (failure : Failure) : Failure :=
  if failure.isSystem then
    .engine ("Failed to launch " ++ engine.name ++ " (" ++ program ++ "): " ++ failure.message)
  else failure

/-- The complaint about an engine that took too long. -/
def timeoutFailure (engine : Engine) (span : Seconds) : Failure :=
  .engine (engine.name ++ " timed out after " ++ span.text ++ "s")

/-- What a process left behind, unless it took longer than its engine is given. -/
def collect (engine : Engine) (result : Result) : Except Failure EngineRun :=
  let run : EngineRun :=
    { returnCode := result.ending.code, stdout := Utf8.decodeLenient result.stdout
      stderr := Utf8.decodeLenient result.stderr }
  match engine.timeout with
  | none => .ok run
  | some span =>
    -- A span that is over at once goes before one that cannot be counted with.
    if span.isOver then .error (timeoutFailure engine span)
    else if span.isTooLarge then .error (.overflow "int too large to convert to float")
    else if endsInTime (some span) result.duration then .ok run
    else .error (timeoutFailure engine span)

/-- The environment of an engine, if it differs from that of the launcher. -/
def engineEnvironment (launcher : Launcher) (engine : Engine) : Option Environment :=
  if engine.env.isEmpty then none else some (launcher.environment.overlay engine.env)

/-- Runs an engine on a file. -/
def runEngine (launcher : Launcher) (request : EngineRequest) : Traced EngineRun :=
  match buildCommand request with
  | .error failure => .fail (.engine failure.message)
  | .ok command => do
    Traced.log (runRecord request.engine command)
    match command with
    | [] => .fail (.wrongKind "missing program")
    | program :: args =>
      match launch launcher program args (engineEnvironment launcher request.engine) with
      | .error failure => .fail (launchFailure request.engine program failure)
      | .ok result => .ofExcept (collect request.engine result)

end LintBroker
