/-
  LintBroker.Tool.Schema

  The tools that are offered, with the shape that their arguments have to have, and
  the check of arguments against it.
-/
import LintBroker.Data.Display
import LintBroker.Language

namespace LintBroker.Tool

open LintBroker.Text

/-! ## Shapes -/

/-- What an argument has to be. -/
inductive Shape where
  | text
  | choice (words : List String)
  | flag (byDefault : Bool)
  | texts
  deriving DecidableEq, Repr

/-- A named argument. -/
structure Parameter where
  name : String
  description : String
  shape : Shape
  deriving DecidableEq, Repr

/-- A tool: its arguments and which of them are required. -/
structure Spec where
  name : String
  description : String
  parameters : List Parameter
  required : List String
  deriving DecidableEq, Repr

/-! ## The tools -/

/-- Analyzes a file or directory. -/
def analyzeCode : Spec where
  name := "analyze_code"
  description := "Analyze code for bugs, errors, and functionality issues"
  parameters :=
    [⟨"path", "Path to the file or directory to analyze", .text⟩,
      ⟨"language", "Optional: Language of the code (auto-detected if not provided)",
        .choice Language.choices⟩,
      ⟨"fix", "Whether to automatically fix issues when possible", .flag false⟩]
  required := ["path"]

/-- Stands for fixing issues. -/
def fixIssues : Spec where
  name := "fix_issues"
  description := "Fix identified issues in code"
  parameters :=
    [⟨"path", "Path to the file to fix", .text⟩,
      ⟨"issueIds", "IDs of issues to fix (from analyze_code results)", .texts⟩]
  required := ["path", "issueIds"]

/-- Stands for suggesting a fix. -/
def getFixSuggestions : Spec where
  name := "get_fix_suggestions"
  description := "Get suggestions for fixing identified issues"
  parameters :=
    [⟨"path", "Path to the file with issues", .text⟩,
      ⟨"issueId", "ID of the issue to get suggestions for", .text⟩]
  required := ["path", "issueId"]

/-- All tools, in the order in which they are listed. -/
def catalog : List Spec := [analyzeCode, fixIssues, getFixSuggestions]

/-! ## Shapes as values -/

/-- A list of texts as a value. -/
def textList (words : List String) : Datum := .list (words.map .text)

/-- The members that describe a shape. -/
def Shape.members : Shape → Members
  | .text => [("type", .text "string")]
  | .choice words => [("type", .text "string"), ("enum", textList words)]
  | .flag byDefault => [("type", .text "boolean"), ("default", .bool byDefault)]
  | .texts => [("type", .text "array"), ("items", .table [("type", .text "string")])]

/-- The table that describes an argument. -/
def Parameter.datum (p : Parameter) : Datum :=
  .table (p.shape.members ++ [("description", .text p.description)])

/-- The table that describes the arguments of a tool. -/
def Spec.inputSchema (spec : Spec) : Datum :=
  .table
    [("type", .text "object"),
      ("properties", .table (spec.parameters.map fun p => (p.name, p.datum))),
      ("required", textList spec.required)]

/-- The table that describes a tool. -/
def Spec.datum (spec : Spec) : Datum :=
  .table
    [("name", .text spec.name), ("description", .text spec.description),
      ("inputSchema", spec.inputSchema)]

/-! ## Checking arguments -/

/-- How arguments can fail to have the shape asked for. -/
inductive Violation where
  | missing (name : String)
  | wrongType (value : Datum) (expected : String)
  | noChoice (value : Datum) (words : List String)

/-- The words for a violation. -/
def Violation.message : Violation → String
  | .missing name => quoted name ++ " is a required property"
  | .wrongType value expected => value.display ++ " is not of type " ++ quoted expected
  | .noChoice value words => value.display ++ " is not one of " ++ (textList words).display

/-- The items of a list that are no texts. -/
def otherThanTexts (items : List Datum) : List Datum := items.filter fun item => item.text?.isNone

/-- What is wrong with the argument itself; the type is looked at before the choice. -/
def Shape.violation? (shape : Shape) (value : Datum) : Option Violation :=
  match shape, value with
  | .text, .text _ => none
  | .text, v => some (.wrongType v "string")
  | .choice words, .text s => if words.contains s then none else some (.noChoice (.text s) words)
  | .choice _, v => some (.wrongType v "string")
  | .flag _, .bool _ => none
  | .flag _, v => some (.wrongType v "boolean")
  | .texts, .list _ => none
  | .texts, v => some (.wrongType v "array")

/-- What is wrong inside the argument; of several bad items the last one is reported. -/
def Shape.innerViolation? (shape : Shape) (value : Datum) : Option Violation :=
  match shape, value with
  | .texts, .list items => (otherThanTexts items).getLast?.map fun item => .wrongType item "string"
  | _, _ => none

/-- The first argument, in the order of the tool, with which a test finds something wrong. -/
def firstViolation (test : Shape → Datum → Option Violation) (arguments : Members) :
    List Parameter → Option Violation
  | [] => none
  | p :: rest =>
    match (arguments.get? p.name).bind (test p.shape) with
    | some v => some v
    | none => firstViolation test arguments rest

/-- What is wrong with arguments: a missing one comes first, then one that is wrong itself, then one
    with something wrong inside. -/
def Spec.violation? (spec : Spec) (arguments : Members) : Option Violation :=
  match spec.required.find? fun name => (arguments.get? name).isNone with
  | some name => some (.missing name)
  | none =>
    match firstViolation Shape.violation? arguments spec.parameters with
    | some v => some v
    | none => firstViolation Shape.innerViolation? arguments spec.parameters

end LintBroker.Tool
