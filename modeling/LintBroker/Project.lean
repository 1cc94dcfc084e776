/-
  LintBroker.Project

  Projects: a directory with a settings directory in it, which may hold a configuration
  document and the log.  A configuration that cannot be read counts as an empty one.
-/
import LintBroker.Files.Disk
import LintBroker.Text.Lines
import LintBroker.Toml.Document
import LintBroker.Traced

namespace LintBroker.Project

open LintBroker.Files LintBroker.Journal LintBroker.Number LintBroker.Text

/-- The name of the settings directory. -/
def directoryName : String := ".code-analyzer"

/-- The name of the configuration document. -/
def configName : String := "config.toml"

/-- The name of the log. -/
def logName : String := "code-analyzer.log"

/-! ## Discovery -/

/-- The first of the directories that has a settings directory, and the path of that. -/
def firstSettings (disk : Disk) : List String → Except Failure (Option String)
  | [] => .ok none
  | directory :: rest =>
    let candidate := below directory directoryName
    match disk.isDirectory candidate with
    | .error failure => .error failure
    | .ok true => .ok (some candidate)
    | .ok false => firstSettings disk rest

/-- The settings directory of the nearest project: the search starts at a path, or at the working
    directory, and goes up to the root. -/
def find (disk : Disk) (start : Option String) : Except Failure (Option String) :=
  let start := start.getD "."
  if Disk.hasNul start then .error nulInText
  else firstSettings disk (ancestors (absolute disk.workingDirectory start))

/-! ## Configuration -/

/-- The note on a configuration that cannot be read. -/
def unreadable (path reason : String) : Record :=
  { logger := loggerOf "core", level := .warning
    message := "Failed to read " ++ path ++ ", using defaults: " ++ reason }

/-- The configuration in a settings directory.  Without a document it is empty, and a document that
    cannot be read is reported and counts as empty; but a number with too many digits in it is a
    failure. -/
def readConfig (disk : Disk) (directory : String) : Traced Members := do
  let path := below directory configName
  let isThere ← Traced.ofExcept (disk.isPresent path)
  if !isThere then pure []
  else
    match disk.readText path with
    | .error failure => do
      Traced.log (unreadable path failure.message)
      pure []
    | .ok text =>
      match Toml.read (newlinesOnly text.toList) with
      | .ok members => pure members
      | .error .malformed => do
        Traced.log (unreadable path "<toml error>")
        pure []
      | .error (.tooManyDigits count) => .fail (.invalidValue (digitLimitMessage count))

end LintBroker.Project
