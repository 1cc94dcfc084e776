/-
  LintBroker.Session.Serving

  A session of the tool server: it opens with the engines and the journal of a
  project, answers calls one after the other, and ends with its input, by an interrupt
  or by a failure.
-/
import LintBroker.Cli.Command
import LintBroker.Journal.Book
import LintBroker.Session.Options
import LintBroker.Tool.Server

namespace LintBroker.Session

open LintBroker.Files LintBroker.Journal LintBroker.Number LintBroker.Text

/-! ## Opening -/

/-- A session that is being served: its engines, its journal, and the error of the protocol that is
    parked. -/
structure Serving where
  engines : EngineTable
  book : Book
  parked : Option Tool.ProtocolError := none

/-- Why a session was not opened, and the journal as it is then. -/
inductive Refusal where
  | noSettings (directory : String)
  | failed (failure : Failure) (book : Book)

/-- The surroundings of the opening: the host, whether a file can be opened for appending, and the
    time. -/
structure Entrance where
  host : Host
  tryOpen : String → Except Failure Unit
  time : String

/-- The settings directory of a project that was named, or of the nearest one. -/
def settingsOf (disk : Disk) (project : Option String) : Except Refusal (Option String) :=
  match project with
  | none => (Project.find disk none).mapError fun failure => .failed failure {}
  | some path =>
    let directory := below path Project.directoryName
    match disk.isDirectory directory with
    | .error failure => .error (.failed failure {})
    | .ok true => .ok (some directory)
    | .ok false => .error (.noSettings directory)

/-- The record of the start. -/
def startRecord (directory : Option String) : Record :=
  { logger := mainLogger, level := .info, message := "mcp_server_start"
    tool := some (.text "server")
    args := some (.table [("project", .ofText? (directory.map parent))]) }

/-- The record of an interrupt. -/
def stopRecord : Record :=
  { logger := mainLogger, level := .info, message := "mcp_server_stop"
    tool := some (.text "server") }

/-- Opens a session on the log files that are there.  What the configuration gives rise to is said
    before the journal is set up, and is not written down. -/
def start (entrance : Entrance) (files : LogFiles) (project : Option String) :
    Except Refusal Serving := do
  let directory ← settingsOf entrance.host.disk project
  let loaded : Traced EngineTable := do
    let config ← Cli.projectConfig entrance.host.disk directory
    loadEngines config
  match loaded.result with
  | .error failure => .error (.failed failure {})
  | .ok engines =>
    let (result, book) :=
      ({ files } : Book).setup entrance.host.disk.workingDirectory entrance.tryOpen directory .info
    match result with
    | .error failure => .error (.failed failure book)
    | .ok () => .ok { engines, book := book.write (startRecord directory) entrance.time }

/-! ## Serving -/

/-- One thing that happens to a session: a call, made directly or as a request, in given
    surroundings;
    an interrupt; or a failure of the connection. -/
inductive Event where
  | call (asRequest : Bool) (name : String) (arguments : Datum) (host : Host) (elapsed : Binary64)
  | interrupt
  | fail (failure : Failure)

/-- How a session ended. -/
inductive Ending where
  | inputEnded
  | interrupted
  | failed (failure : Failure)
  deriving DecidableEq

/-- Writes records one after the other. -/
def writeAll (book : Book) (records : List Record) (time : String) : Book :=
  records.foldl (fun book record => book.write record time) book

/-- Answers a call, and writes down what it logs. -/
def answer (serving : Serving) (time : String) (asRequest : Bool) (name : String)
    (arguments : Datum)
    (context : Tool.Context) : Traced Tool.Reply × Serving :=
  let (called, parked) :=
    if asRequest then Tool.handleRequest context serving.parked name arguments
    else Tool.directCall context serving.parked name arguments
  (called, { serving with book := writeAll serving.book called.records time, parked })

/-- Serves events until one ends the session: the answers in order, the ending, and the journal. -/
def serve (serving : Serving) (time : String) :
    List Event → List (Traced Tool.Reply) × Ending × Book
  | [] => ([], .inputEnded, serving.book)
  | .interrupt :: _ => ([], .interrupted, serving.book.write stopRecord time)
  | .fail failure :: _ => ([], .failed failure, serving.book)
  | .call asRequest name arguments host elapsed :: rest =>
    let (called, serving) :=
      answer serving time asRequest name arguments ⟨host, serving.engines, elapsed⟩
    let (answers, ending, book) := serve serving time rest
    (called :: answers, ending, book)

/-- The complaint about a project without settings. -/
def noSettingsText (directory : String) : String := "Error: " ++ directory ++ " not found.\n"

/-- A session without an event, as one of the commands: it is opened, and its input ends at once. -/
def runServe (entrance : Entrance) (files : LogFiles) (project : Option String) :
    Traced Cli.Finish := do
  match settingsOf entrance.host.disk project with
  | .error (.noSettings directory) => pure { exit := 1, stderr := noSettingsText directory }
  | .error (.failed failure _) => pure (Cli.crashed failure)
  | .ok directory =>
    Cli.finishing do
      let config ← Cli.projectConfig entrance.host.disk directory
      let _ ← loadEngines config
      match start entrance files project with
      | .error (.failed failure _) => .fail failure
      | .error (.noSettings _) => pure { exit := 1 }
      | .ok _ => do
        Traced.log (startRecord directory)
        pure { exit := 0 }

end LintBroker.Session
