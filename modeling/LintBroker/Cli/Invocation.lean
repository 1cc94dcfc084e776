/-
  LintBroker.Cli.Invocation

  What a call of the program asks for: one of the commands with its settings, or an
  early end with a help text or a complaint.
-/
import LintBroker.Cli.Arguments
import LintBroker.Files.Disk
import LintBroker.Text.ControlSequence

namespace LintBroker.Cli

open LintBroker.Files LintBroker.Text

/-- A command with its settings. -/
inductive Invocation where
  | analyze (path language : String) (fix json : Bool)
  | engines (json : Bool)
  | serve (project : Option String)
  deriving DecidableEq, Repr

/-- How the program ended: exit code and output, and the failure that broke it off if one did. -/
structure Finish where
  exit : Nat
  stdout : String := ""
  stderr : String := ""
  crash : Option Failure := none
  deriving DecidableEq

/-- The end with its output as it is shown: without control sequences, since no terminal is
    written to. -/
def Finish.plain (finish : Finish) : Finish :=
  { finish with
    stdout := ControlSequence.remove finish.stdout
    stderr := ControlSequence.remove finish.stderr }

/-- The exit code for a wrong call. -/
def usageExit : Nat := 2

/-- An end with a complaint about the call. -/
def complain (spec : CommandSpec) (fault : UsageFault) : Finish :=
  Finish.plain { exit := usageExit, stderr := fault.report spec }

/-- An end by a failure that nothing takes care of. -/
def crashed (failure : Failure) : Finish := { exit := 1, crash := some failure }

/-- An end that shows a text. -/
def show_ (text : String) : Finish := { exit := 0, stdout := text }

/-- Ends early with what an option shows, else complains, else goes on. -/
def settle {α : Type} (spec : CommandSpec) (scanned : Except UsageFault Scanned)
    (next : Scanned → Except Finish α) : Except Finish α :=
  match scanned with
  | .error fault => .error (complain spec fault)
  | .ok scanned =>
    match scanned.ending? with
    | some .version => .error (show_ versionText)
    | some _ => .error (show_ (spec.help []))
    | none => next scanned

/-- What a path leads to, when that can be told; a text that is no path breaks the program off. -/
def lookAt (disk : Disk) (path : String) : Except Finish (Option FileKind) :=
  if Disk.hasNul path then .error (crashed nulInText)
  else
    match disk.kind path with
    | .ok kind => .ok (some kind)
    | .error _ => .ok none

/-- No operand may be left over. -/
def noMore (spec : CommandSpec) (operands : List String) : Except Finish Unit :=
  if operands.isEmpty then .ok () else .error (complain spec (.extraOperands operands))

/-- The settings of an analysis. -/
def analyzeInvocation (disk : Disk) (scanned : Scanned) : Except Finish Invocation := do
  let language := (scanned.value? "--language").getD Language.auto
  if !Language.choices.contains language then
    .error (complain analyzeSpec (.noChoice "--language" language Language.choices))
  match scanned.operands with
  | [] => .error (complain analyzeSpec (.missingOperand "PATH"))
  | path :: more => do
    let _ ← lookAt disk path
    noMore analyzeSpec more
    pure (.analyze (normalize path) language (scanned.has "--fix") (scanned.has "--json"))

/-- The settings of a list of engines. -/
def enginesInvocation (scanned : Scanned) : Except Finish Invocation := do
  noMore enginesSpec scanned.operands
  pure (.engines (scanned.has "--json"))

/-- The settings of a server. -/
def serveInvocation (disk : Disk) (scanned : Scanned) : Except Finish Invocation := do
  let project := scanned.value? "--project"
  if let some path := project then
    let kind ← lookAt disk path
    if kind = some .regular then
      .error (complain serveSpec (.notDirectory "--project" path))
  noMore serveSpec scanned.operands
  pure (.serve (project.map normalize))

/-- The command that a word names, and its settings. -/
def commandInvocation (disk : Disk) (word : String) (args : List String) :
    Except Finish Invocation :=
  if word = analyzeSpec.name then
    settle analyzeSpec (scan analyzeSpec true args) (analyzeInvocation disk)
  else if word = enginesSpec.name then
    settle enginesSpec (scan enginesSpec true args) enginesInvocation
  else if word = serveSpec.name then
    settle serveSpec (scan serveSpec true args) (serveInvocation disk)
  else
    .error (complain programSpec
      (.noSuchCommand word (closeMatches word (commands.map CommandSpec.name))))

/-- The help of the program. -/
def programHelp : String := programSpec.help commands

/-- The options of the program itself: they show something, or the command follows. -/
def settleProgram {α : Type} (args : List String) (next : List String → Except Finish α) :
    Except Finish α :=
  match scan programSpec false args with
  | .error fault => .error (complain programSpec fault)
  | .ok scanned =>
    match scanned.ending? with
    | some .version => .error (show_ versionText)
    | some _ => .error (show_ programHelp)
    | none => next scanned.operands

/-- What a call asks for.  Without arguments the help is shown as a complaint.  A word in the place
    of the command that looks like an option is read as one. -/
def invocation (disk : Disk) (args : List String) : Except Finish Invocation :=
  if args.isEmpty then .error { exit := usageExit, stderr := programHelp }
  else
    settleProgram args fun operands =>
      match operands with
      | [] => .error (complain programSpec .missingCommand)
      | word :: rest =>
        if looksLikeOption word then
          settleProgram operands fun _ => commandInvocation disk word rest
        else commandInvocation disk word rest

end LintBroker.Cli
