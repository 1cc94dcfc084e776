/-
  LintBroker.Shell.Switch

  The switches of a shell, which scripts and callers turn on and off by a letter or by a
  name.
-/
import LintBroker.Text.Octets

namespace LintBroker.Shell

open LintBroker.Text

/-- A switch of the shell. -/
inductive Switch where
  /-- The shell ends at a failure. -/
  | errexit
  /-- Words are no patterns for names of files. -/
  | noglob
  | ignoreeof
  | interactive
  | monitor
  /-- Commands are read and not run. -/
  | noexec
  /-- The script is the input. -/
  | stdin
  /-- Each command is shown. -/
  | xtrace
  /-- Each line is shown as it is read. -/
  | verbose
  | vi
  | emacs
  /-- Files that are there are not overwritten. -/
  | noclobber
  /-- Variables that are set are given to programs. -/
  | allexport
  | notify
  /-- Parameters need a value. -/
  | nounset
  | privileged
  | nolog
  | debug
  deriving DecidableEq, Repr

namespace Switch

/-- The switches with their names and letters, in the order of listings. -/
def table : List (Switch × String × Option Char) := [
    (.errexit, "errexit", some 'e'), (.noglob, "noglob", some 'f'),
    (.ignoreeof, "ignoreeof", some 'I'), (.interactive, "interactive", some 'i'),
    (.monitor, "monitor", some 'm'), (.noexec, "noexec", some 'n'), (.stdin, "stdin", some 's'),
    (.xtrace, "xtrace", some 'x'), (.verbose, "verbose", some 'v'), (.vi, "vi", some 'V'),
    (.emacs, "emacs", some 'E'), (.noclobber, "noclobber", some 'C'),
    (.allexport, "allexport", some 'a'), (.notify, "notify", some 'b'),
    (.nounset, "nounset", some 'u'), (.privileged, "privileged", some 'p'),
    (.nolog, "nolog", none), (.debug, "debug", none) ]

/-- The switch of a letter. -/
def ofLetter? (c : Char) : Option Switch :=
  (table.find? fun (_, _, letter) => letter = some c).map (·.1)

/-- The switch of a name. -/
def ofName? (name : Octets) : Option Switch :=
  (table.find? fun (_, n, _) => n.toList = name).map (·.1)

end Switch

/-- The switches that are on. -/
abbrev Switches := List Switch

namespace Switches

/-- Turns a switch on or off. -/
def turn (switches : Switches) (active : Bool) (s : Switch) : Switches :=
  let others := switches.filter (· != s)
  if active then s :: others else others

/-- Turns a switch that was given by its letter; of the two that choose an editor at most one is on
    then. -/
def turnLetter (switches : Switches) (active : Bool) (s : Switch) : Switches :=
  let turned := switches.turn active s
  match s, active with
  | .vi, true => turned.turn false .emacs
  | .emacs, true => turned.turn false .vi
  | _, _ => turned

/-- The letters of the switches that are on, the last one of the table first. -/
def letters (switches : Switches) : Octets :=
  Switch.table.reverse.filterMap fun (s, _, letter) =>
    if switches.contains s then letter else none

/-- A listing of all switches with their states. -/
def listing (switches : Switches) : Octets :=
  "Current option settings\n".toList ++ Switch.table.flatMap fun (s, name, _) =>
    (name.pushn ' ' (16 - name.length)).toList
      ++ (if switches.contains s then "on\n" else "off\n").toList

/-- The commands that bring all switches into their states. -/
def commands (switches : Switches) : Octets :=
  Switch.table.flatMap fun (s, name, _) =>
    ((if switches.contains s then "set -o " else "set +o ") ++ name ++ "\n").toList

/-- A switch that was turned on is on, and one that was turned off is off. -/
theorem contains_turn (switches : Switches) (active : Bool) (s : Switch) :
    (turn switches active s).contains s = active := by
  cases active <;> simp [turn]

end Switches

end LintBroker.Shell
