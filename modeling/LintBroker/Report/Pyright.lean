/-
  LintBroker.Report.Pyright

  Issues in the text that Pyright writes.  A diagnostic is a path, a line and a
  column, a severity and a message, with fixed marks between them.  Of the places
  where the part after the path can begin the last one counts, so a path may hold
  text that looks like a diagnostic itself.
-/
import LintBroker.Issue
import LintBroker.Report.Fields
import LintBroker.Text.LowerCase
import LintBroker.Text.Split
import LintBroker.Text.Word

namespace LintBroker.Report.Pyright

open LintBroker.Number LintBroker.Text

/-- The tag in the ids of these issues. -/
def tag : String := "py"

/-! ## Diagnostics -/

/-- The parts of a diagnostic after its path, as they are written. -/
structure Tail where
  line : List Char
  column : List Char
  severity : List Char
  message : List Char
  deriving DecidableEq, Repr

/-- The characters of a class at the start of a text, at least one, and what follows them. -/
def takeSome (test : Char → Bool) (cs : List Char) : Option (List Char × List Char) :=
  if (cs.takeWhile test).isEmpty then none else some (cs.takeWhile test, cs.dropWhile test)

/-- What follows a mark at the start of a text. -/
def skipMark (mark : List Char) (cs : List Char) : Option (List Char) :=
  if mark.isPrefixOf cs then some (cs.drop mark.length) else none

/-- The parts after the path, when the text begins with them; the message reaches to its end. -/
def tail? (cs : List Char) : Option Tail := do
  let cs ← skipMark [':'] cs
  let (line, cs) ← takeSome isDecimal cs
  let cs ← skipMark [':'] cs
  let (column, cs) ← takeSome isDecimal cs
  let cs ← skipMark [' ', '-', ' '] cs
  let (severity, cs) ← takeSome isWordChar cs
  let message ← skipMark [':', ' '] cs
  if message.isEmpty then none else pure { line, column, severity, message }

/-- The tail that begins last in a text. -/
def lastTail? : List Char → Option Tail
  | [] => none
  | c :: rest =>
    match lastTail? rest with
    -- A tail that begins further on goes before one that begins here.
    | some t => some t
    | none => tail? (c :: rest)

/-- The diagnostic in a stretch without newlines: its path has at least one character. -/
def stretchTail? : List Char → Option Tail
  | [] => none
  | _ :: rest => lastTail? rest

/-- The diagnostic in a line of text, which is in the first stretch between newlines that has
    one. -/
def diagnostic? (line : List Char) : Option Tail := (splitAt '\n' line).findSome? stretchTail?

/-! ## Issues -/

/-- The number that decimal digits write, within the limit on their count. -/
def number (digits : List Char) : Except Failure Int :=
  if digitLimit < digits.length then .error (.invalidValue (digitLimitMessage digits.length))
  else .ok (decimalRowValue digits)

/-- The issue of a diagnostic. -/
def issue (path : String) (t : Tail) (ordinal : Nat) : Except Failure Issue := do
  let line ← number t.line
  let column ← number t.column
  pure
    { id := issueId tag path ordinal
      severity := lower (String.ofList t.severity)
      message := String.ofList t.message
      line := some line
      column := some column }

/-- The issues in lines of text about the file at a path; lines without a diagnostic do not
    count. -/
def issues (lines : List String) (path : String) : Except Failure (List Issue) :=
  (lines.filterMap fun line => diagnostic? line.toList).zipIdx.mapM fun (t, n) => issue path t n

end LintBroker.Report.Pyright
