/-
  LintBroker.Analysis

  Analyzing a file: each language has a linter, which knows its engine, how to run it
  and how to read its report.  Whatever goes wrong with an engine becomes the outcome
  of the analysis instead of ending it.
-/
import LintBroker.Engine.Bundled
import LintBroker.Host
import LintBroker.Language
import LintBroker.Report.Eslint
import LintBroker.Report.Htmlhint
import LintBroker.Report.Pyright
import LintBroker.Report.Source
import LintBroker.Report.Stylelint
import LintBroker.Text.Lines

namespace LintBroker

open LintBroker.Files LintBroker.Journal LintBroker.Number LintBroker.Report LintBroker.Text

/-! ## Linters -/

/-- The linters: one for both script languages, and one for each other language. -/
inductive Linter where
  | script
  | page
  | style
  | python
  deriving DecidableEq, Repr

namespace Linter

/-- The tag in the ids of issues. -/
def tag : Linter → String
  | .script => Eslint.tag
  | .page => Htmlhint.tag
  | .style => Stylelint.tag
  | .python => Pyright.tag

/-- The name in messages. -/
def label : Linter → String
  | .script => "JavaScript"
  | .page => "HTML"
  | .style => "CSS"
  | .python => "Python"

/-- The name of the engine. -/
def engineName : Linter → String
  | .script => "eslint"
  | .page => "htmlhint"
  | .style => "stylelint"
  | .python => "pyright"

/-- The engine takes a whole directory. -/
def acceptsDirectory : Linter → Bool
  | .page => false
  | _ => true

/-- The linter of each language. -/
def byLanguage : List (String × Linter) :=
  [("javascript", .script), ("typescript", .script), ("html", .page), ("css", .style),
    ("python", .python)]

/-- The linter of a language. -/
def ofLanguage (language : String) : Except Failure Linter :=
  match byLanguage.lookup language with
  | some linter => .ok linter
  | none => .error (.unsupportedLanguage language)

end Linter

/-! ## Targets -/

/-- The normalized path of something that can be analyzed: a file, or a directory if those are
    accepted. -/
def requireTarget (disk : Disk) (path : String) (acceptsDirectory : Bool) : Except Failure String :=
  let target := normalize path
  match disk.isDirectory target with
  | .error failure => .error failure
  | .ok true =>
    if acceptsDirectory then .ok target else .error (.system .isDirectory (some path))
  | .ok false =>
    match disk.isFile target with
    | .error failure => .error failure
    | .ok true => .ok target
    | .ok false => .error (.missingTarget path)

/-! ## Engine output -/

/-- The most characters of an engine's output that a message quotes. -/
def excerptLimit : Nat := 2000

/-- What an engine said, for a message: the error output, else the output, else its exit code. -/
def excerpt (run : EngineRun) : String :=
  let said := if strip run.stderr = "" then strip run.stdout else strip run.stderr
  if said = "" then "exit code " ++ intText run.returnCode
  else String.ofList (said.toList.take excerptLimit)

/-- The arguments that ask an engine to fix what it can. -/
def fixArgs (fix : Bool) : List String := if fix then ["--fix"] else []

/-- The issues after a run for scripts: from exit code 2 on ESLint could not do its work. -/
def scriptIssues (run : EngineRun) : Traced (List Issue) :=
  if 2 ≤ run.returnCode then .fail (.engine (excerpt run))
  else do
    let report ← readReport [run.stdout]
    .ofExcept (Eslint.issues report)

/-- Scripts, with the configuration that comes with the library. -/
def lintScript (host : Host) (engine : Engine) (target : String) (fix : Bool) :
    Traced (List Issue) := do
  let run ← host.ask
    { engine, file := target, configPath := host.bundled scriptRulesName, extraArgs := fixArgs fix }
  scriptIssues run

/-- The failure to read a report on a page: what the engine said is shown in its place. -/
def pageFailure (run : EngineRun) : Failure → Failure
  | .engine _ => .engine (excerpt run)
  | other => other

/-- The issues after a run for a page. -/
def pageIssues (target : String) (run : EngineRun) : Traced (List Issue) := do
  let report ← (readReport [run.stdout]).handle fun failure => .fail (pageFailure run failure)
  .ofExcept (Htmlhint.issues report target)

/-- Pages: the file has to be readable text; HTMLHint fixes nothing. -/
def lintPage (host : Host) (engine : Engine) (target : String) : Traced (List Issue) := do
  let _ ← Traced.ofExcept (host.disk.readText target)
  let run ← host.ask { engine, file := target, configPath := host.bundled pageRulesName }
  pageIssues target run

/-- The exit codes with which Stylelint could not do its work. -/
def stylelintFatalExits : List Int := [1, 64, 78]

/-- The issues after a run for style sheets: the report may be on either stream. -/
def styleIssues (run : EngineRun) : Traced (List Issue) :=
  if stylelintFatalExits.contains run.returnCode then .fail (.engine (excerpt run))
  else do
    let report ← readReport [run.stdout, run.stderr]
    .ofExcept (Stylelint.issues report)

/-- Style sheets, with the configuration of the project they are in. -/
def lintStyle (host : Host) (engine : Engine) (target : String) (fix : Bool) :
    Traced (List Issue) := do
  let run ← host.ask { engine, file := target, extraArgs := fixArgs fix }
  styleIssues run

/-- The issues after a run for Python: the output is text, and any exit code will do. -/
def pythonIssues (target : String) (run : EngineRun) : Traced (List Issue) := do
  if strip run.stderr ≠ "" then
    Traced.log
      { logger := loggerOf "analyzers.python", level := .warning
        message := "Python analysis stderr: " ++ strip run.stderr }
  .ofExcept (Pyright.issues (lines run.stdout) target)

/-- Python, which Pyright only reads. -/
def lintPython (host : Host) (engine : Engine) (target : String) : Traced (List Issue) := do
  let run ← host.ask { engine, file := target }
  pythonIssues target run

/-- The issues that a linter finds in a target. -/
def Linter.lint (linter : Linter) (host : Host) (engine : Engine) (target : String) (fix : Bool) :
    Traced (List Issue) :=
  match linter with
  | .script => lintScript host engine target fix
  | .page => lintPage host engine target
  | .style => lintStyle host engine target fix
  | .python => lintPython host engine target

/-! ## Outcomes -/

/-- What went wrong with an engine, with the tag and the label of the linter. -/
structure EngineFault where
  tag : String
  label : String
  message : String
  deriving DecidableEq, Repr

/-- The single issue that stands for a fault. -/
def EngineFault.issue (fault : EngineFault) : Issue where
  id := fault.tag ++ "-error"
  severity := "error"
  message := "Error analyzing " ++ fault.label ++ ": " ++ fault.message

/-- How an analysis ended. -/
inductive Outcome where
  | found (issues : List Issue)
  | faulted (fault : EngineFault)
  deriving DecidableEq, Repr

namespace Outcome

/-- There was no fault. -/
def ok : Outcome → Bool
  | .found _ => true
  | .faulted _ => false

/-- The fault, if there was one. -/
def fault? : Outcome → Option EngineFault
  | .found _ => none
  | .faulted fault => some fault

/-- The issues that the engine reported; with a fault there are none. -/
def issues : Outcome → List Issue
  | .found issues => issues
  | .faulted _ => []

/-- The issues as callers see them. -/
def issueList : Outcome → List Issue
  | .found issues => issues
  | .faulted fault => [fault.issue]

end Outcome

/-- The record of a fault. -/
def faultRecord (linter : Linter) (failure : Failure) : Record :=
  { logger := loggerOf "analyzers", level := .error
    message := linter.label ++ " analysis error: " ++ failure.message
    failure := some failure }

/-- The outcome without a fault: the issues in what is at a path. -/
def Linter.attempt (linter : Linter) (host : Host) (engine : Engine) (path : String) (fix : Bool) :
    Traced Outcome := do
  let target ← Traced.ofExcept (requireTarget host.disk path linter.acceptsDirectory)
  let issues ← linter.lint host engine target fix
  pure (.found issues)

/-- A failure that stands for one of the engine is logged and becomes the outcome; any other one
    stays a failure. -/
def Linter.settle (linter : Linter) (failure : Failure) : Traced Outcome :=
  if failure.isFault then do
    Traced.log (faultRecord linter failure)
    pure (.faulted ⟨linter.tag, linter.label, failure.message⟩)
  else .fail failure

/-- Analyzes the file at a path as one of a language.  A failure of the engine becomes the outcome;
    a missing linter or engine ends the analysis. -/
def analyzeFile (host : Host) (table : EngineTable) (path language : String) (fix : Bool) :
    Traced Outcome := do
  let linter ← Traced.ofExcept (Linter.ofLanguage language)
  let engines := if table.isEmpty then Engine.defaults else table
  match engines.get? linter.engineName with
  | none => .fail (.missingKey linter.engineName)
  | some engine => (linter.attempt host engine path fix).handle linter.settle

end LintBroker
