/-
  LintBroker.Engine.Override

  Engine tables from a configuration.  Each entry of its section changes some settings
  of a known engine; an entry that cannot be used is reported and changes nothing.
-/
import LintBroker.Data.Display
import LintBroker.Text.Blank
import LintBroker.Text.Word
import LintBroker.Traced

namespace LintBroker

open LintBroker.Journal LintBroker.Number LintBroker.Text

/-! ## Entries -/

/-- Why an entry cannot be used. -/
inductive Rejection where
  | unsafeName
  | notTable
  | unknownEngine
  | badCommand
  | badDescription
  | badArgs
  | badEnv
  | badTimeout
  deriving DecidableEq, Repr

/-- The report about an entry. -/
def Rejection.message (name : String) : Rejection → String
  | .unsafeName => "Invalid engine name in config (unsafe characters): " ++ quoted name
  | .notTable => "Invalid engine config ([engines." ++ name ++ "] must be a table)"
  | .unknownEngine => "Unknown engine in config, ignoring: " ++ quoted name
  | .badCommand =>
    "Invalid engine config ([engines." ++ name ++ "] command must be a non-empty string)"
  | .badDescription =>
    "Invalid engine config ([engines." ++ name ++ "] description must be a string)"
  | .badArgs => "Invalid engine config ([engines." ++ name ++ "] args must be list[str])"
  | .badEnv => "Invalid engine config ([engines." ++ name ++ "] env must be a table of strings)"
  | .badTimeout =>
    "Invalid engine config ([engines." ++ name ++ "] timeout must be a positive number)"

/-- Word characters and hyphens, at least one; a newline may end the name. -/
def isSafeName (name : String) : Bool :=
  let cs := name.toList
  -- The end of a name is the end of the text or a newline that is its last character.
  let body := if cs.getLast? = some '\n' then cs.dropLast else cs
  !body.isEmpty && body.all fun c => isWordChar c || c == '-'

/-- The texts of a list that holds nothing else. -/
def textItems? : List Datum → Option (List String)
  | [] => some []
  | .text s :: rest => (textItems? rest).map (s :: ·)
  | _ => none

/-- The members of a table whose values are texts only. -/
def textMembers? : List (String × Datum) → Option (List (String × String))
  | [] => some []
  | (name, .text s) :: rest => (textMembers? rest).map ((name, s) :: ·)
  | _ => none

/-- A member as `read` takes it, or the value in force when the member is not given. -/
def given {α : Type} (members : Members) (name : String) (inForce : α) (read : Datum → Option α)
    (rejection : Rejection) : Except Rejection α :=
  match members.get? name with
  | none => .ok inForce
  | some value =>
    match read value with
    | some a => .ok a
    | none => .error rejection

/-- A command that is not blank. -/
def commandOf? : Datum → Option String
  | .text s => if blank s then none else some s
  | _ => none

/-- A list of texts. -/
def argsOf? : Datum → Option (List String)
  | .list items => textItems? items
  | _ => none

/-- A table of texts. -/
def envOf? : Datum → Option (List (String × String))
  | .table members => textMembers? members
  | _ => none

/-- A span of seconds that is not zero or below; null means that there is no limit. -/
def timeoutOf? : Datum → Option (Option Seconds)
  | .null => some none
  | .int n => if n ≤ 0 then none else some (some (.whole n))
  | .float x => if x.nonpositive then none else some (some (.real x))
  | _ => none

/-- The engine with the settings that an entry gives, checked in a fixed order.  The limit is
    still as it was given. -/
def Engine.overridden (base : Engine) (members : Members) : Except Rejection Engine := do
  let command ← given members "command" base.command commandOf? .badCommand
  let description ← given members "description" base.description Datum.text? .badDescription
  let args ← given members "args" base.args argsOf? .badArgs
  let env ← given members "env" base.env envOf? .badEnv
  let timeout ← given members "timeout" base.timeout timeoutOf? .badTimeout
  pure { base with command, description, args, env, timeout }

/-- The engine that an entry describes, on the ground of the one in force. -/
def readOverride (name : String) (entry : Datum) (base : Option Engine) : Except Rejection Engine :=
  if !isSafeName name then .error .unsafeName
  else
    match entry with
    | .table members =>
      match base with
      | some engine => engine.overridden members
      | none => .error .unknownEngine
    | _ => .error .notTable

/-- A limit as a binary number; a whole number beyond them all is a failure. -/
def Engine.withRealTimeout (engine : Engine) : Except Failure Engine :=
  match engine.timeout with
  | some (.whole n) =>
    match Binary64.ofInt? n with
    | some x => .ok { engine with timeout := some (.real x) }
    | none => .error (.overflow "int too large to convert to float")
  | _ => .ok engine

/-! ## Tables -/

/-- A warning about the configuration. -/
def engineWarning (message : String) : Record :=
  { logger := loggerOf "engines", level := .warning, message }

/-- The table with the entries of a section applied one after the other. -/
def applyOverrides (table : EngineTable) : List (String × Datum) → Traced EngineTable
  | [] => pure table
  | (name, entry) :: rest =>
    match readOverride name entry (table.get? name) with
    | .error rejection => do
      Traced.log (engineWarning (rejection.message name))
      applyOverrides table rest
    | .ok engine => do
      let engine ← Traced.ofExcept engine.withRealTimeout
      applyOverrides (table.replace name engine) rest

/-- The engine table of a configuration: the known engines with the entries of its section. -/
def loadEngines (config : Members) : Traced EngineTable :=
  match config.get? "engines" with
  | none => pure Engine.defaults
  | some (.table section_) => applyOverrides Engine.defaults section_
  | some _ => do
    Traced.log (engineWarning "Invalid config ([engines] must be a table), using defaults")
    pure Engine.defaults

end LintBroker
