/-
  LintBroker.Engine.Command

  The argument list of an engine for a target: the words of its command template, the
  extra arguments of the call, and its own arguments with the places filled in.
-/
import LintBroker.Engine.Basic
import LintBroker.Failure
import LintBroker.Shell.Words

namespace LintBroker

open LintBroker.Shell LintBroker.Text

/-! ## Filling in -/

/-- The text with a value in every place of a mark, from left to right; `skip` characters belong to
    the place that was met last. -/
def fillFrom (mark value : List Char) (skip : Nat) : List Char → List Char
  | [] => []
  | c :: rest =>
    match skip with
    | n + 1 => fillFrom mark value n rest
    | 0 =>
      if mark.isPrefixOf (c :: rest) then value ++ fillFrom mark value (mark.length - 1) rest
      else c :: fillFrom mark value 0 rest

/-- The text with a value in every place of a mark. -/
def fill (mark value text : String) : String :=
  String.ofList (fillFrom mark.toList value.toList 0 text.toList)

/-- An argument with the target file and then the configuration file filled in. -/
def fillArg (file config arg : String) : String :=
  fill Engine.configPlace config (fill Engine.filePlace file arg)

/-! ## The argument list -/

/-- The complaint about a template that cannot be cut into words. -/
def malformedCommand (engine : Engine) (fault : WordsFault) : String :=
  "Malformed command string in engine " ++ quoted engine.name ++ ": " ++ fault.message

/-- The argument list of an engine. -/
def buildCommand (request : EngineRequest) : Except Failure (List String) :=
  match words request.engine.command with
  | .error fault => .error (.invalidValue (malformedCommand request.engine fault))
  | .ok base =>
    .ok (base ++ request.extraArgs
      ++ request.engine.args.map (fillArg request.file request.configPath))

end LintBroker
