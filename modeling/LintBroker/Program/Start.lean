/-
  LintBroker.Program.Start

  How running programs start others: at a path, where a file without a form of its own is
  taken for a script, or at the first of several paths.
-/
import LintBroker.Program.World

namespace LintBroker.Program

open LintBroker.Files LintBroker.Text

/-- The program that runs files without a form of their own. -/
def scriptRunner : Octets := "/bin/sh".toList

namespace Start

/-- Starts the program at a path; a file without a form of its own is taken for a script. -/
def orScript (start : Start) (path : Octets) (call : Call) (world : World) :
    Except SystemError (Outcome × World) :=
  match start path call world with
  | .error e =>
    if e = .badFormat then
      start scriptRunner { call with args := scriptRunner :: path :: call.args.drop 1 } world
    else .error e
  | .ok result => .ok result

/-- Starts the program at the first of some paths at which one can be started.  Else the refusal
    counts that does not merely say that nothing is there, the last one of those. -/
def first (start : Start) (call : Call) (world : World) (kept : SystemError) :
    List Octets → Except SystemError (Outcome × World)
  | [] => .error kept
  | path :: rest =>
    match start.orScript path call world with
    | .ok result => .ok result
    | .error e =>
      start.first call world (if e = .noEntry ∨ e = .notDirectory then kept else e) rest

end Start

end LintBroker.Program
