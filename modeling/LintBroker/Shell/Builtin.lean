/-
  LintBroker.Shell.Builtin

  The table of the commands that a shell knows itself and that run no others.
-/
import LintBroker.Shell.Builtin.Alias
import LintBroker.Shell.Builtin.Directory
import LintBroker.Shell.Builtin.Input
import LintBroker.Shell.Builtin.Jobs
import LintBroker.Shell.Builtin.Mask
import LintBroker.Shell.Builtin.Output
import LintBroker.Shell.Builtin.Signals
import LintBroker.Shell.Builtin.Variables

namespace LintBroker.Shell

open LintBroker.Text

/-- Writes the times that the shell and the programs took; they are too short to be told. -/
def writeTimes : Builtin := fun _ => do
  put "0m0.000000s 0m0.000000s\n0m0.000000s 0m0.000000s\n".toList
  return 0

/-- Writes the limit for the size of files: there is none. -/
def writeLimit : Builtin := fun _ => do
  put "unlimited\n".toList
  return 0

/-- The commands by name. -/
def builtins : List (String × Builtin) := [
    (":", fun _ => return 0), ("true", fun _ => return 0), ("false", fun _ => return 1),
    ("echo", echo), ("printf", printFormat), ("test", test), ("[", bracketTest),
    ("exit", exitShell), ("return", goBack), ("break", leaveLoops .leave),
    ("continue", leaveLoops .again), ("shift", shift), ("set", setAll),
    ("export", giveToPrograms), ("readonly", keepFixed), ("unset", unset), ("local", makeLocal),
    ("getopts", readOption), ("alias", giveAlias), ("unalias", dropAlias), ("umask", changeMask),
    ("cd", changeDirectory), ("chdir", changeDirectory), ("pwd", printDirectory),
    ("read", readLine), ("kill", kill), ("trap", trap), ("wait", awaitJobs), ("jobs", listJobs),
    ("fg", continueJob), ("bg", continueJob), ("times", writeTimes), ("ulimit", writeLimit) ]

/-- The commands that run others or look for them. -/
def runners : List String := ["eval", ".", "exec", "command", "type", "hash"]

/-- The commands whose arguments may be assignments. -/
def declarers : List (List Char) := ["export", "readonly", "local", "alias"].map String.toList

/-- The command of the shell with a name. -/
def builtin? (name : Octets) : Option Builtin := builtins.lookup (String.ofList name)

/-- The name is that of a command of the shell. -/
def isBuiltin (name : Octets) : Bool :=
  (builtin? name).isSome || runners.contains (String.ofList name)

/-- The name is that of a special command. -/
def isSpecial (name : Octets) : Bool := specialNames.contains name

/-- Every special command is one of the shell. -/
theorem isBuiltin_of_isSpecial {name : Octets} (h : isSpecial name = true) :
    isBuiltin name = true := by
  simp only [isSpecial, List.contains_iff_mem] at h
  revert name
  decide +kernel

end LintBroker.Shell
