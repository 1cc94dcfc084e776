/-
  LintBroker.Journal.Book

  The whole journal: the logger, its log files and the lines of the error streams, one
  of which is the current one.
-/
import LintBroker.Journal.LogFile
import LintBroker.Journal.Logger
import LintBroker.Journal.Line

namespace LintBroker.Journal

open LintBroker.Files LintBroker.Text

/-- What is written and where it goes. -/
structure Book where
  logger : Logger := {}
  files : LogFiles := []
  streams : List (List String) := [[]]
  /-- The number of the current error stream. -/
  current : Nat := 0

namespace Book

/-- Puts a new error stream in the place of the current one. -/
def newStream (book : Book) : Book :=
  { book with streams := book.streams ++ [[]], current := book.streams.length }

/-- Puts one of the error streams in the place of the current one. -/
def useStream (book : Book) (n : Nat) : Book := { book with current := n }

/-- Sets the journal up for a settings directory, or for the current error stream.  `tryOpen` tells
    whether a file can be opened for appending. -/
def setup (book : Book) (workingDirectory : String) (tryOpen : String → Except Failure Unit)
    (directory : Option String) (level : Level) : Except Failure Unit × Book :=
  match directory with
  | none => (.ok (), { book with logger := book.logger.setupStream book.current level })
  | some directory =>
    let path := Logger.logPath workingDirectory directory
    let (result, logger) := book.logger.setupFile path level (tryOpen path)
    match result with
    | .error failure => (.error failure, { book with logger })
    | .ok () => (.ok (), { book with logger, files := book.files.touch path })

/-- Sets the journal up for a level that may be none: then all but the level is set. -/
def setupWith (book : Book) (workingDirectory : String) (tryOpen : String → Except Failure Unit)
    (directory : Option String) (level : Except Failure Level) : Except Failure Unit × Book :=
  match level with
  | .ok level => book.setup workingDirectory tryOpen directory level
  | .error failure =>
    -- The target is added before the level is looked at, and it stays.
    match book.setup workingDirectory tryOpen directory book.logger.level with
    | (.ok (), book) => (.error failure, book)
    | broken => broken

/-- Writes a line to one target. -/
def writeTo (book : Book) (line : String) : Target → Book
  | .file path => { book with files := book.files.write path line }
  | .stream n => { book with streams := book.streams.modify n fun lines => lines ++ [line] }

/-- Writes a record to every target, if its level is accepted. -/
def write (book : Book) (record : Record) (time : String) : Book :=
  if book.logger.accepts record.level ∧ book.logger.targets ≠ [] then
    book.logger.targets.foldl (fun book target => book.writeTo (record.line time) target) book
  else book

/-! ## Records with further fields -/

/-- The names of fields that every record has. -/
def reservedFields : List String :=
  ["name", "msg", "args", "levelname", "levelno", "pathname", "filename", "module", "exc_info",
    "exc_text", "stack_info", "lineno", "funcName", "created", "msecs", "relativeCreated", "thread",
    "threadName", "processName", "process", "message", "asctime"]

/-- The record with further fields; those without a place in a line are left out. -/
def withFields (record : Record) (fields : Members) : Record :=
  { record with
    tool := fields.get? "tool"
    args := fields.get? "args_data"
    duration := fields.get? "duration_ms"
    error := fields.get? "error" }

/-- Writes a record with further fields, none of which may be one that every record has. -/
def writeWith (book : Book) (record : Record) (fields : Members) (time : String) :
    Except Failure Unit × Book :=
  if !book.logger.accepts record.level then (.ok (), book)
  else
    match fields.find? fun p => reservedFields.contains p.1 with
    | some p =>
      (.error (.missingKey ("Attempt to overwrite " ++ quoted p.1 ++ " in LogRecord")), book)
    | none => (.ok (), book.write (withFields record fields) time)

end Book

end LintBroker.Journal
