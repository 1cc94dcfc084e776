/-
  LintBroker.Shell.Builtin.Output

  The commands that write texts, and the tests of conditions.
-/
import LintBroker.Shell.Builtin.Basic
import LintBroker.Shell.Condition
import LintBroker.Shell.Format

namespace LintBroker.Shell

open LintBroker.Files LintBroker.Text

/-! ## Texts -/

/-- Writes its arguments. -/
def echo : Builtin := fun args => do
  put (echoed args)
  return 0

/-- Writes its arguments as a format says. -/
def printFormat : Builtin := fun args => do
  let (_, args) ← takeOptions "" args
  match args with
  | [] => misuse "usage: printf format [arg ...]".toList
  | format :: rest =>
    let formatted := Formatted.ofArgs format rest
    put formatted.text
    if formatted.broken then
      formatted.complaints.dropLast.forM complain
      misuse (formatted.complaints.getLast?.getD [])
    else
      formatted.complaints.forM complain
      return statusOf formatted.complaints.isEmpty

/-! ## Conditions -/

/-- What conditions can ask of the files of a shell. -/
def State.facts (state : State) : Facts where
  kind path := (state.world.tree.find state.directory (Octets.toText path)).toOption.map Entry.kind
  size path :=
    match state.world.tree.find state.directory (Octets.toText path) with
    | .ok (.file bytes _) => bytes.length
    | _ => 1
  executable path := (state.world.tree.disk state.directory).executable (Octets.toText path)
  place path := (state.world.tree.resolve state.directory (Octets.toText path)).toOption
  changed place := state.world.changed place

/-- Tests a condition. -/
def test : Builtin := fun args => do
  match holds (← get).facts args with
  | .ok b => return statusOf b
  | .error message => misuse message

/-- Tests a condition that ends with a bracket. -/
def bracketTest : Builtin := fun args => do
  if args.getLast? = some [']'] then test args.dropLast
  else misuse "missing ]".toList

end LintBroker.Shell
