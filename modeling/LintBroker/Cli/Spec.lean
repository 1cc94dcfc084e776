/-
  LintBroker.Cli.Spec

  The commands and their options, and the help that is made from them.
-/
import LintBroker.Language

namespace LintBroker.Cli

/-! ## Specifications -/

/-- What an option does: it shows the help or the version, it is a switch, or it takes a value that
    help calls by a word. -/
inductive OptionKind where
  | help
  | version
  | switch
  | takesValue (word : String)
  deriving DecidableEq, Repr

/-- An option of a command. -/
structure OptionSpec where
  name : String
  kind : OptionKind
  help : String
  deriving DecidableEq, Repr

/-- A command: the words that call it, what may follow them, what it does, and its options. -/
structure CommandSpec where
  name : String
  path : String
  operands : String
  summary : String
  options : List OptionSpec
  deriving DecidableEq, Repr

/-- The name of the program. -/
def programName : String := "code-analyzer"

/-- The version of the program. -/
def programVersion : String := "0.1.0"

/-- The option that every command has. -/
def helpOption : OptionSpec := ⟨"--help", .help, "Show this message and exit."⟩

/-- The option for JSON. -/
def jsonOption : OptionSpec := ⟨"--json", .switch, "Output as JSON"⟩

/-- Analyzes a path. -/
def analyzeSpec : CommandSpec where
  name := "analyze"
  path := programName ++ " analyze"
  operands := "PATH"
  summary := "Analyze PATH and print the issues found."
  options :=
    [⟨"--language", .takesValue ("[" ++ "|".intercalate Language.choices ++ "]"),
        "Language of the file  [default: auto]"⟩,
      ⟨"--fix", .switch, "Let the engine fix issues in place"⟩, jsonOption, helpOption]

/-- Lists the engines. -/
def enginesSpec : CommandSpec where
  name := "engines"
  path := programName ++ " engines"
  operands := ""
  summary := "List configured engines and whether each can be launched."
  options := [jsonOption, helpOption]

/-- Serves the tools. -/
def serveSpec : CommandSpec where
  name := "mcp"
  path := programName ++ " mcp"
  operands := ""
  summary := "Run the MCP server on stdio."
  options := [⟨"--project", .takesValue "DIRECTORY", "Project root"⟩, helpOption]

/-- The commands in the order of the help. -/
def commands : List CommandSpec := [analyzeSpec, enginesSpec, serveSpec]

/-- The program itself. -/
def programSpec : CommandSpec where
  name := programName
  path := programName
  operands := "COMMAND [ARGS]..."
  summary := "Code analyzer — ESLint, HTMLHint, Stylelint and Pyright behind one interface."
  options := [⟨"--version", .version, "Show the version and exit."⟩, helpOption]

/-! ## Help -/

/-- The line that shows how a command is called. -/
def CommandSpec.usage (spec : CommandSpec) : String :=
  let operands := if spec.operands = "" then "" else " " ++ spec.operands
  "Usage: " ++ spec.path ++ " [OPTIONS]" ++ operands ++ "\n"

/-- The option as the help names it. -/
def OptionSpec.heading (option : OptionSpec) : String :=
  match option.kind with
  | .takesValue word => option.name ++ " " ++ word
  | _ => option.name

/-- The widest first column of a list. -/
def widestColumn : Nat := 30

/-- A list in two columns, two blanks apart.  An entry that is too wide for the first column has its
    text on a line of its own. -/
def twoColumns (rows : List (String × String)) : String :=
  let widest := rows.foldl (fun n row => max n row.1.length) 0
  let column := min widest widestColumn
  String.join (rows.map fun (heading, text) =>
    let gap :=
      if heading.length ≤ column then "".pushn ' ' (column + 2 - heading.length)
      else "\n" ++ "".pushn ' ' (column + 4)
    "  " ++ heading ++ gap ++ text ++ "\n")

/-- The help of a command, with the list of commands below it. -/
def CommandSpec.help (spec : CommandSpec) (below : List CommandSpec) : String :=
  spec.usage ++ "\n  " ++ spec.summary ++ "\n\nOptions:\n"
    ++ twoColumns (spec.options.map fun o => (o.heading, o.help))
    ++ (if below.isEmpty then ""
      else "\nCommands:\n" ++ twoColumns (below.map fun c => (c.name, c.summary)))

/-- The text of the version. -/
def versionText : String := programName ++ ", version " ++ programVersion ++ "\n"

end LintBroker.Cli
