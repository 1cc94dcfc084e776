/-
  LintBroker.Engine.Basic

  Lint engines: a command template with the settings for running it, the four engines
  that are known from the start, and tables of engines by name.
-/
import LintBroker.Number.Shortest
import LintBroker.Number.Decimal

namespace LintBroker

open LintBroker.Number

/-- A span of seconds, whole or not. -/
inductive Seconds where
  | whole (n : Int)
  | real (x : Binary64)
  deriving DecidableEq

/-- The text of a span of seconds. -/
def Seconds.text : Seconds → String
  | .whole n => intText n
  | .real x => floatText x

/-- An engine.  The arguments may hold the places of the target file and of a configuration file;
    `env` is laid over the environment of the process. -/
structure Engine where
  name : String
  description : String
  command : String
  args : List String := []
  env : List (String × String) := []
  timeout : Option Seconds := none
  deriving DecidableEq

/-- Engines by name, in the order in which they are listed. -/
abbrev EngineTable := List (String × Engine)

namespace EngineTable

/-- The engine of a name. -/
def get? (table : EngineTable) (name : String) : Option Engine := table.lookup name

/-- Puts an engine in the place of the one with that name. -/
def replace (table : EngineTable) (name : String) (engine : Engine) : EngineTable :=
  table.map fun entry => if entry.1 = name then (name, engine) else entry

end EngineTable

namespace Engine

/-- The place of the target file in an argument. -/
def filePlace : String := "\x7bfile\x7d"

/-- The place of the configuration file in an argument. -/
def configPlace : String := "\x7bconfig\x7d"

/-- ESLint, for scripts. -/
def eslint : Engine where
  name := "eslint"
  description := "ESLint with eslint:recommended (JavaScript, TypeScript)"
  command := "npx --no-install eslint"
  args := ["--no-eslintrc", "--config", configPlace, "--format", "json", filePlace]
  env := [("ESLINT_USE_FLAT_CONFIG", "false")]

/-- HTMLHint, for pages. -/
def htmlhint : Engine where
  name := "htmlhint"
  description := "HTMLHint with the bundled rule set (HTML)"
  command := "npx --no-install htmlhint"
  args := ["--config", configPlace, "--format", "json", filePlace]

/-- Stylelint, for style sheets. -/
def stylelint : Engine where
  name := "stylelint"
  description := "Stylelint with the project's own configuration (CSS)"
  command := "npx --no-install stylelint"
  args := ["--formatter", "json", filePlace]

/-- Pyright, for Python. -/
def pyright : Engine where
  name := "pyright"
  description := "Pyright type checker (Python)"
  command := "pyright"
  args := [filePlace]

/-- The engines that are known from the start. -/
def defaults : EngineTable :=
  [eslint, htmlhint, stylelint, pyright].map fun engine => (engine.name, engine)

end Engine

/-- A request to run an engine on a file. -/
structure EngineRequest where
  engine : Engine
  file : String
  configPath : String := ""
  extraArgs : List String := []
  deriving DecidableEq

/-- What an engine left behind when it ended by itself. -/
structure EngineRun where
  returnCode : Int
  stdout : String
  stderr : String
  deriving DecidableEq

end LintBroker
