/-
  LintBroker.Journal.Record

  Records of what happened: a logger's name, a level, a message, and for calls of
  tools the tool, its arguments, how long it took and what went wrong.
-/
import LintBroker.Data.Display
import LintBroker.Failure

namespace LintBroker.Journal

/-- The importance of a record.  Any number can be one; the spelling is that of a number that is
    not whole, which counts as none. -/
structure Level where
  number : Int
  spelling : Option String := none
  deriving DecidableEq, Repr

namespace Level

/-- The level of a whole number. -/
def whole (number : Int) : Level := { number }

def unset : Level := whole 0
def debug : Level := whole 10
def info : Level := whole 20
def warning : Level := whole 30
def error : Level := whole 40
def critical : Level := whole 50

/-- The levels that have a name. -/
def names : List (Int × String) :=
  [(0, "NOTSET"), (10, "DEBUG"), (20, "INFO"), (30, "WARNING"), (40, "ERROR"), (50, "CRITICAL")]

/-- Further names of levels. -/
def otherNames : List (String × Int) := [("FATAL", 50), ("WARN", 30)]

/-- The name of a level; the others are called by their number. -/
def name (level : Level) : String :=
  match level.spelling with
  | some spelling => "Level " ++ spelling
  | none => (names.lookup level.number).getD ("Level " ++ Number.intText level.number)

/-- The level that a value stands for: a number that equals one with a name is that one. -/
def ofDatum : Datum → Level
  | .int n => whole n
  | value =>
    match names.find? fun p => value.equalsInt p.1 with
    | some p => whole p.1
    | none => { number := 0, spelling := some value.asText }

/-- The level that a message is logged at has to be a whole number. -/
def ofMessage : Datum → Except Failure Level
  | .int n => .ok (whole n)
  | .bool false => .ok (whole 0)
  | .bool true => .ok { number := 1, spelling := some (Datum.asText (.bool true)) }
  | _ => .error (.wrongKind "level must be an integer")

/-- The level that a logger is set to is a whole number or the name of a level. -/
def ofSetting : Datum → Except Failure Level
  | .text name =>
    match names.find? (·.2 = name), otherNames.lookup name with
    | some p, _ => .ok (whole p.1)
    | none, some number => .ok (whole number)
    | none, none => .error (.invalidValue ("Unknown level: " ++ Text.quoted name))
  | value => ofMessage value

end Level

/-- One thing that happened.  A field that the record does not have is none. -/
structure Record where
  logger : String
  level : Level
  message : String
  tool : Option Datum := none
  args : Option Datum := none
  duration : Option Datum := none
  error : Option Datum := none
  failure : Option Failure := none

/-- The logger of the whole library, below which all others are. -/
def mainLogger : String := "code_analyzer"

/-- The logger of a part of the library. -/
def loggerOf (part : String) : String := mainLogger ++ "." ++ part

end LintBroker.Journal
