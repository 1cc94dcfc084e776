/-
  LintBroker.Tool.Action

  What the tools do with their arguments, which may be of any shape.  A reply is one
  text, JSON unless it reports an error.  Only the analysis looks at files; the two
  tools about fixes touch nothing and answer with placeholders.
-/
import LintBroker.Analysis
import LintBroker.Json.Printer
import LintBroker.Tool.Schema

namespace LintBroker.Tool

open LintBroker.Files LintBroker.Number LintBroker.Text

/-! ## Replies -/

/-- The answer of a tool. -/
structure Reply where
  isError : Bool
  text : String
  deriving DecidableEq, Repr

/-- A reply that holds a value. -/
def Reply.ofDatum (value : Datum) : Reply := ⟨false, Json.indentedText value⟩

/-- A reply that reports an error. -/
def Reply.error (message : String) : Reply := ⟨true, message⟩

/-- The surroundings of the calls: the host, the engines and how long a call took, in thousandths of
    a second. -/
structure Context where
  host : Host
  engines : EngineTable
  elapsed : Binary64

/-- The code for arguments that the protocol does not accept. -/
def invalidParams : Int := -32602

/-- The code for a tool that is not offered. -/
def methodNotFound : Int := -32601

/-! ## Arguments of any shape -/

/-- Taking a member of something that is not a table by its name. -/
def noSubscript : Datum → Failure
  | .list _ => .wrongKind "list indices must be integers or slices, not str"
  | .text _ => .wrongKind "string indices must be integers, not 'str'"
  | value => .wrongKind (quoted value.kindName ++ " object is not subscriptable")

/-- A required member of the arguments. -/
def member (arguments : Datum) (name : String) : Except Failure Datum :=
  match arguments with
  | .table members =>
    match Members.get? members name with
    | some value => .ok value
    | none => .error (.missingKey name)
  | other => .error (noSubscript other)

/-- The items of anything that has items: those of a list, the characters of a text, the names of a
    table. -/
def itemsOf : Datum → Except Failure (List Datum)
  | .list items => .ok items
  | .text s => .ok (s.toList.map fun c => .text (String.singleton c))
  | .table members => .ok (members.map fun p => .text p.1)
  | value => .error (.wrongKind (quoted value.kindName ++ " object is not iterable"))

/-! ## The analysis -/

/-- The payload of an analysis. -/
def analysisPayload (path language : String) (issues : List Issue) : Datum :=
  .table
    [("filePath", .text path), ("language", .text language), ("issuesCount", .int issues.length),
      ("issues", .list (issues.map Issue.datum))]

/-- The language that the arguments ask for; a value that cannot name anything is a failure. -/
def languageOf (path : String) : Option Datum → Except Failure String
  | none => .ok (Language.detect path)
  | some .null => .ok (Language.detect path)
  | some (.list _) => .error (.wrongKind "unhashable type: 'list'")
  | some (.table _) => .error (.wrongKind "unhashable type: 'dict'")
  | some value => .ok (Language.resolve path (some value.asText))

/-- Analyzes the file at a path that names something. -/
def analyzePath (context : Context) (path : String) (language : Option Datum) (fix : Bool) :
    Traced Reply := do
  let _ ← Traced.ofExcept (context.host.disk.status (normalize path))
  let language ← Traced.ofExcept (languageOf path language)
  let outcome ← analyzeFile context.host context.engines path language fix
  pure (Reply.ofDatum (analysisPayload path language outcome.issueList))

/-- How the analysis reports a failure: a language without a linter is against the protocol, and
    files and values that cannot be used are reported in the reply. -/
def analysisFailure (failure : Failure) : Traced Reply :=
  match failure with
  | .unsupportedLanguage language =>
    .fail (.protocol invalidParams (Failure.unsupportedLanguage language).message)
  | failure =>
    if failure.isSystem || failure.isValue then
      pure (Reply.error ("Error analyzing code: " ++ failure.message))
    else .fail failure

/-- The analysis of what the arguments name. -/
def analyze (context : Context) (arguments : Datum) : Traced Reply :=
  match arguments with
  | .table members =>
    match Members.get members "path" with
    | .text path =>
      if blank path then pure (Reply.error "Error analyzing code: path must be a non-empty string")
      else
        match (Members.get? members "fix").getD (.bool false) with
        | .bool fix =>
          (analyzePath context path (Members.get? members "language") fix).handle analysisFailure
        | _ => pure (Reply.error "Error analyzing code: fix must be a boolean")
    | _ => pure (Reply.error "Error analyzing code: path must be a non-empty string")
  | other => .fail (.missingPart (quoted other.kindName ++ " object has no attribute 'get'"))

/-! ## The placeholders -/

/-- The word that all issues are fixed. -/
def fixedStatus : String := "Fixed issues successfully"

/-- The payload that claims issues as fixed. -/
def fixPayload (arguments : Datum) : Except Failure Datum := do
  let ids ← itemsOf (← member arguments "issueIds")
  let path ← member arguments "path"
  pure (.table
    [("filePath", path), ("fixedIssues", .int ids.length), ("issueIds", .list ids),
      ("status", .text fixedStatus)])

/-- Claims issues as fixed. -/
def fix (arguments : Datum) : Traced Reply :=
  match fixPayload arguments with
  | .ok payload => pure (Reply.ofDatum payload)
  | .error failure => pure (Reply.error ("Error fixing issues: " ++ failure.message))

/-- The one suggestion that is ever made. -/
def placeholderSuggestion : Datum :=
  .table
    [("id", .text "fix-1"), ("description", .text "Replace with correct syntax"),
      ("code", .text "// Example fixed code")]

/-- The payload that suggests a fix. -/
def suggestionPayload (arguments : Datum) : Except Failure Datum := do
  let path ← member arguments "path"
  let issueId ← member arguments "issueId"
  pure (.table
    [("filePath", path), ("issueId", issueId), ("suggestions", .list [placeholderSuggestion])])

/-- Suggests a fix. -/
def suggest (arguments : Datum) : Traced Reply :=
  match suggestionPayload arguments with
  | .ok payload => pure (Reply.ofDatum payload)
  | .error (.missingKey name) =>
    pure (Reply.error ("Error getting fix suggestions: missing argument "
      ++ (Failure.missingKey name).message))
  | .error failure => .fail failure

/-! ## Choosing -/

/-- What a tool does with its arguments. -/
abbrev Action := Context → Datum → Traced Reply

/-- The actions by the name of the tool. -/
def actions : List (String × Action) :=
  [(analyzeCode.name, analyze), (fixIssues.name, fun _ => fix),
    (getFixSuggestions.name, fun _ => suggest)]

end LintBroker.Tool
