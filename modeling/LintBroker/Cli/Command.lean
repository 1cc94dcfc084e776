/-
  LintBroker.Cli.Command

  The commands that analyze a path and that list the engines.  Their settings come
  from the nearest project.
-/
import LintBroker.Analysis
import LintBroker.Cli.Invocation
import LintBroker.Engine.Availability
import LintBroker.Engine.Override
import LintBroker.Json.Printer
import LintBroker.Project
import LintBroker.Tool.Action

namespace LintBroker.Cli

open LintBroker.Files LintBroker.Number LintBroker.Text

/-! ## Engines of the project -/

/-- The configuration of the project whose settings directory was found, empty without one. -/
def projectConfig (disk : Disk) : Option String → Traced Members
  | some directory => Project.readConfig disk directory
  | none => pure []

/-- The engine table of the nearest project. -/
def projectEngines (host : Host) : Traced EngineTable := do
  let directory ← Traced.ofExcept (Project.find host.disk none)
  let config ← projectConfig host.disk directory
  loadEngines config

/-! ## Analysis -/

/-- The exit code for found errors. -/
def issuesExit : Nat := 1

/-- A place in a file; what is not known counts as zero. -/
def positionText (position : Option Int) : String := intText (position.getD 0)

/-- The line about an issue. -/
def issueLine (path : String) (issue : Issue) : String :=
  let rule := match issue.rule with
    | some rule => if rule = "" then "" else " [" ++ rule ++ "]"
    | none => ""
  path ++ ":" ++ positionText issue.line ++ ":" ++ positionText issue.column ++ " "
    ++ issue.severity ++ " " ++ issue.message ++ rule ++ "\n"

/-- The issues as lines, and their count. -/
def issueLines (path : String) (issues : List Issue) : String :=
  if issues.isEmpty then path ++ ": no issues\n"
  else
    String.join (issues.map (issueLine path)) ++ "\n" ++ natText issues.length ++ " issue(s)\n"

/-- What an analysis prints. -/
def analysisOutput (path language : String) (issues : List Issue) (json : Bool) : String :=
  if json then Json.indentedText (Tool.analysisPayload path language issues) ++ "\n"
  else issueLines path issues

/-- An issue is an error, and none of the milder severities. -/
def isError (issue : Issue) : Bool := issue.severity == "error"

/-- Analyzes what is at a path that is known to be there. -/
def analyzePresent (host : Host) (path language : String) (fix json : Bool) : Traced Finish := do
  let engines ← projectEngines host
  let language := Language.resolve path (some language)
  let outcome ← analyzeFile host engines path language fix
  let issues := outcome.issueList
  pure
    { exit := if issues.any isError then issuesExit else 0
      stdout := analysisOutput path language issues json }

/-- Analyzes a path.  Nothing there and a language without a linter are complaints. -/
def runAnalyze (host : Host) (path language : String) (fix json : Bool) : Traced Finish := do
  let isThere ← Traced.ofExcept (host.disk.isPresent path)
  if !isThere then pure { exit := usageExit, stderr := "Error: no such file: " ++ path ++ "\n" }
  else
    (analyzePresent host path language fix json).handle fun failure =>
      match failure with
      | .unsupportedLanguage _ =>
        pure { exit := usageExit, stderr := "Error: " ++ failure.message ++ "\n" }
      | other => .fail other

/-! ## Engines -/

/-- A limit as a value. -/
def Seconds.datum : Option Seconds → Datum
  | none => .null
  | some (.whole n) => .int n
  | some (.real x) => .float x

/-- An engine, and what keeps it from being run. -/
structure EngineRow where
  engine : Engine
  problem : Option String
  deriving DecidableEq

/-- The table that stands for a row. -/
def EngineRow.datum (row : EngineRow) : Datum :=
  .table
    [("name", .text row.engine.name), ("description", .text row.engine.description),
      ("command", .text row.engine.command), ("args", Tool.textList row.engine.args),
      ("timeout", Seconds.datum row.engine.timeout), ("available", .bool row.problem.isNone),
      ("problem", .ofText? row.problem)]

/-- A text with blanks after it up to a width. -/
def padRight (width : Nat) (s : String) : String := s.pushn ' ' (width - s.length)

/-- The lines about an engine. -/
def EngineRow.lines (row : EngineRow) : String :=
  let mark := if row.problem.isNone then "ok" else "missing"
  padRight 10 row.engine.name ++ " " ++ padRight 8 mark ++ " " ++ row.engine.command ++ "\n"
    ++ (match row.problem with
      | some problem => padRight 19 "" ++ " " ++ problem ++ "\n"
      | none => "")

/-- The engines of a table with what keeps them from being run. -/
def engineRows (host : Host) (table : EngineTable) : Except Failure (List EngineRow) :=
  table.mapM fun (_, engine) =>
    (checkEngine host.disk host.searchPath engine).map fun problem => ⟨engine, problem⟩

/-- Lists the engines. -/
def runEngines (host : Host) (json : Bool) : Traced Finish := do
  let table ← projectEngines host
  let rows ← Traced.ofExcept (engineRows host table)
  let stdout :=
    if json then Json.indentedText (.list (rows.map EngineRow.datum)) ++ "\n"
    else String.join (rows.map EngineRow.lines)
  pure { exit := 0, stdout }

/-! ## Running -/

/-- Runs a command and shows what it puts out; a failure that nothing takes care of breaks the
    program off. -/
def finishing (command : Traced Finish) : Traced Finish :=
  (Finish.plain <$> command).handle fun failure => pure (crashed failure)

/-- Runs what a call asks for, as far as no server is asked for: that is left to the session. -/
def run (host : Host) (args : List String) (serve : Option String → Traced Finish) :
    Traced Finish :=
  match invocation host.disk args with
  | .error finish => pure finish
  | .ok (.analyze path language fix json) => finishing (runAnalyze host path language fix json)
  | .ok (.engines json) => finishing (runEngines host json)
  | .ok (.serve project) => serve project

end LintBroker.Cli
