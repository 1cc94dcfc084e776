/-
  LintBroker.Program.Signal

  Signals by number and name, and what they do to a process.
-/
import LintBroker.Number.Decimal
import LintBroker.Text.Octets

namespace LintBroker.Program

open LintBroker.Number LintBroker.Text

/-- The names of the signals by number; zero stands for the end of a script. -/
def signalNames : List String :=
  ["EXIT", "HUP", "INT", "QUIT", "ILL", "TRAP", "ABRT", "BUS", "FPE", "KILL", "USR1", "SEGV",
    "USR2", "PIPE", "ALRM", "TERM", "16", "CHLD", "CONT", "STOP", "TSTP", "TTIN", "TTOU", "URG",
    "XCPU", "XFSZ", "VTALRM", "PROF", "WINCH", "IO", "PWR", "SYS", "32", "33", "RTMIN"]
    ++ (List.range 15).map (fun n => "RTMIN+" ++ natText (n + 1))
    ++ (List.range 14).map (fun n => "RTMAX-" ++ natText (14 - n)) ++ ["RTMAX"]

/-- The number of a signal, given by its number or by its name; the name of the end of a script
    counts only if zero is allowed. -/
def signalNumber? (zeroNamed : Bool) (cs : Octets) : Option Nat :=
  if cs ≠ [] ∧ cs.all Char.isDigit then
    let n := digitsValue 10 cs
    if n < signalNames.length then some n else none
  else
    let index := signalNames.idxOf (String.ofList (cs.map Char.toUpper))
    if index < signalNames.length ∧ (zeroNamed ∨ index ≠ 0) then some index else none

/-- A process can expect the signal. -/
def isTrappable (n : Nat) : Bool := n != 9 && n != 19

/-- What a signal does to a process that does not expect it. -/
inductive SignalEffect where
  | none
  | kills
  | halts
  deriving DecidableEq, Repr

/-- What the signal of a number does. -/
def signalEffect (n : Nat) : SignalEffect :=
  if n = 0 ∨ n = 17 ∨ n = 18 ∨ n = 23 ∨ n = 28 then .none
  else if 19 ≤ n ∧ n ≤ 22 then .halts
  else .kills

/-- What a shell says about a program that a signal killed, if anything. -/
def signalNotice? (n : Nat) : Option String :=
  [(1, "Hangup"), (3, "Quit"), (4, "Illegal instruction"), (5, "Trace/breakpoint trap"),
    (6, "Aborted"), (7, "Bus error"), (8, "Floating point exception"), (9, "Killed"),
    (10, "User defined signal 1"), (11, "Segmentation fault"), (12, "User defined signal 2"),
    (14, "Alarm clock"), (15, "Terminated"), (16, "Stack fault"), (24, "CPU time limit exceeded"),
    (25, "File size limit exceeded"), (26, "Virtual timer expired"),
    (27, "Profiling timer expired"), (29, "I/O possible"), (30, "Power failure"),
    (31, "Bad system call")].lookup n

/-- The first number with which a shell tells that a signal killed a program. -/
def signalStatusBase : Nat := 128

end LintBroker.Program
