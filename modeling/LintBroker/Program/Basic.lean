/-
  LintBroker.Program.Basic

  Programs that are started: the environment they are given, how they ended and what
  they wrote until then.
-/
import LintBroker.Failure

namespace LintBroker.Program

open LintBroker.Files

/-! ## Environments -/

/-- The named texts that a program is given, each name once. -/
abbrev Environment := List (String × String)

namespace Environment

/-- The text of a name. -/
def get? (environment : Environment) (name : String) : Option String := environment.lookup name

/-- Gives a name a text; a name that is there keeps its place. -/
def put (environment : Environment) (name text : String) : Environment :=
  match environment with
  | [] => [(name, text)]
  | (n, t) :: rest => if n = name then (n, text) :: rest else (n, t) :: put rest name text

/-- An environment with another one laid over it. -/
def overlay (environment upper : Environment) : Environment :=
  upper.foldl (fun out entry => put out entry.1 entry.2) environment

/-- A name that was given a text has it. -/
theorem get?_put (environment : Environment) (name text : String) :
    (environment.put name text).get? name = some text := by
  induction environment with
  | nil => simp [put, get?]
  | cons entry rest ih =>
    by_cases h : entry.1 = name
    · simp [put, get?, h]
    · have : (name == entry.1) = false := by simpa using fun e => h e.symm
      simpa only [put, get?, h, if_false, List.lookup_cons, this, cond_false] using ih

end Environment

/-! ## Processes -/

/-- How a process ended: by itself with a status, or by a signal. -/
inductive Ending where
  | exited (status : Nat)
  | killed (signal : Nat)
  deriving DecidableEq, Repr

/-- The number that stands for an ending; the signals are below zero. -/
def Ending.code : Ending → Int
  | .exited status => status
  | .killed signal => -(signal : Int)

/-- What came of a program that was started. -/
structure Result where
  ending : Ending
  stdout : List UInt8 := []
  stderr : List UInt8 := []
  /-- The milliseconds until it ended, none if it never does. -/
  duration : Option Nat := some 0
  deriving DecidableEq, Repr

/-- A system that starts programs. -/
structure Launcher where
  /-- The environment that programs inherit. -/
  environment : Environment
  /-- Starts the program at a path with its arguments, its own name first. -/
  execute : String → List String → Environment → Except SystemError Result

end LintBroker.Program
