/-
  LintBroker.Journal.Logger

  Where records go.  A logger has a level and a list of targets: log files and error
  streams.  Setting it up for a project directs it to the log of that project and
  takes away every other log file; without a project the current error stream is
  added.
-/
import LintBroker.Files.Path
import LintBroker.Journal.Record
import LintBroker.Project

namespace LintBroker.Journal

open LintBroker.Files

/-- A place that records are written to: a file by its absolute path, or an error stream by its
    number. -/
inductive Target where
  | file (path : String)
  | stream (index : Nat)
  deriving DecidableEq, Repr

/-- The level below which records are dropped, and the targets in the order of writing. -/
structure Logger where
  level : Level := .unset
  targets : List Target := []
  deriving DecidableEq, Repr

namespace Logger

/-- The level that counts when none is set. -/
def inheritedLevel : Level := .warning

/-- A record of a level is written. -/
def accepts (logger : Logger) (level : Level) : Bool :=
  let least := if logger.level = .unset then inheritedLevel else logger.level
  0 < level.number && least.number ≤ level.number

/-- The stale log files in front of the wanted one are taken away; if the wanted one is met, the
    rest stays.  True tells that it was met. -/
def dropStale (wanted : String) : List Target → List Target × Bool
  | [] => ([], false)
  | .stream n :: rest =>
    let (kept, met) := dropStale wanted rest
    (.stream n :: kept, met)
  | .file path :: rest =>
    -- The search ends here, so stale files behind the wanted one are kept.
    if path = wanted then (.file path :: rest, true) else dropStale wanted rest

/-- The absolute path of the log in a directory. -/
def logPath (workingDirectory directory : String) : String :=
  absolute workingDirectory (below directory Project.logName)

/-- Directs the logger to a log file.  `opened` tells whether the file could be opened; if not, the
    stale files are gone all the same and the level stays. -/
def setupFile (logger : Logger) (path : String) (level : Level) (opened : Except Failure Unit) :
    Except Failure Unit × Logger :=
  let (kept, met) := dropStale path logger.targets
  if met then (.ok (), { level, targets := kept })
  else
    match opened with
    | .error failure => (.error failure, { logger with targets := kept })
    | .ok () => (.ok (), { level, targets := kept ++ [.file path] })

/-- Directs the logger to an error stream, besides the targets that it has. -/
def setupStream (logger : Logger) (stream : Nat) (level : Level) : Logger :=
  { level
    targets :=
      if logger.targets.contains (.stream stream) then logger.targets
      else logger.targets ++ [.stream stream] }

end Logger

end LintBroker.Journal
