/-
  LintBroker.Shell.Run

  Running commands.  The depth of nested commands is bounded; a script that goes beyond
  the bound counts as one that never ends.
-/
import LintBroker.Shell.Loop
import LintBroker.Shell.SimpleCommand

namespace LintBroker.Shell

open LintBroker.Program LintBroker.Text

/-- Ends the shell if it is to stop at a failure and the status is one. -/
def stopAtFailure (tested : Bool) : Act Unit := do
  let state ← get
  if state.has .errexit ∧ !tested ∧ state.status ≠ 0 then throw (.exit state.status)

/-- The first branch of a choice whose patterns mean the subject. -/
def chosen (output : Command → Act Octets) (subject : Octets) :
    List (List Word × Command) → Act (Option Command)
  | [] => return none
  | (patterns, body) :: rest => do
    if ← patterns.anyM fun word => return (← expandPattern output word).matchesAll subject then
      return some body
    else chosen output subject rest

/-- The name of the program that a command may run, if it is a plain word. -/
def Command.plainName? : Command → Option Octets
  | .simple _ _ ([.text false name] :: _) _ => if isName name then some name else none
  | _ => none

/-- Looks for the program that a command may run, so that it is found once for all copies. -/
def findEarly (command : Command) : Act Unit := do
  match command.plainName? with
  | none => return
  | some name =>
    if !isBuiltin name && ((← get).functions.lookup name).isNone then
      let _ ← findProgram name

/-- The parts of a pipeline: each but the last one has an output of its own. -/
def partsOf (run : Command → Act Unit) (outputs : List Nat) : List Command → List Part
  | [] => []
  | [last] => [⟨run last, last.isDetached outputs⟩]
  | first :: rest =>
    ⟨run first, first.isDetached (outputs.filter (· != outputChannel))⟩ :: partsOf run outputs rest

/-- Runs a command that is nested no deeper than the bound.  In a `tested` command a failure is
    expected. -/
def run (start : Start) : Nat → Bool → Command → Act Unit
  | 0, _, _ => throw .endless
  | depth + 1, tested, command => do
    if (← get).has .noexec then return
    let inner (tested : Bool) (c : Command) : Act Unit := run start depth tested c
    let script : Octets → Act Unit := runText (inner false) .part
    let output (c : Command) : Act Octets := do
      match c with
      | .sequence [] => return []
      | _ =>
        let (text, status) ← outputOf script (inner false c)
        modify fun state => { state with substituted := some status }
        return text
    match command with
    | .simple line assignments words redirects => do
      simpleCommand ⟨start, inner, output⟩ tested line assignments words redirects
      runAwaited (inner false)
      stopAtFailure tested
    | .sequence parts => parts.forM (inner tested)
    | .pipeline parts => do
      parts.forM findEarly
      setStatus (← piped script (partsOf (inner tested) [] parts))
      runAwaited (inner false)
      stopAtFailure tested
    | .negated body => do
      inner true body
      setStatus (if (← get).status = 0 then 1 else 0)
    | .joined junction first second => do
      inner true first
      let succeeded := decide ((← get).status = 0)
      if succeeded == (junction == .whenTrue) then inner tested second
    | .background body => do
      let parts := match body with
        | .pipeline parts => parts
        | _ => [body]
      beside script (partsOf (inner false) (← get).outputs parts)
    | .subshell body => do
      setStatus (← inPlace script (inner tested body))
      runAwaited (inner false)
      stopAtFailure tested
    | .conditional test yes no => do
      inner true test
      if (← get).status = 0 then inner tested yes
      else
        match no with
        | some no => inner tested no
        | none => setStatus 0
    | .repeated untilTrue test body =>
      let round : Act Round := do
        inner true test
        let succeeded := decide ((← get).status = 0)
        if succeeded == untilTrue then return .last
        else
          inner tested body
          return .next
      rounds (inLoop round) roundLimit 0
    | .forEach line name items body => do
      modify fun state => { state with line }
      let texts ← match items with
        | some words => expandAll output words
        | none => pure (← get).params
      if texts = [] then setStatus 0
      roundsFor (fun text => inLoop do
        assign name text
        inner tested body
        return .next) texts
    | .select line subject branches => do
      modify fun state => { state with line }
      let text ← expandText output subject
      match ← chosen output text branches with
      | none => setStatus 0
      | some (.sequence []) => setStatus 0
      | some body => inner tested body
    | .define name body =>
      modify fun state =>
        { state with
          status := 0, found := state.found.filter fun p => p.1 != name
          functions := (name, body) :: state.functions.filter fun p => p.1 != name }
    | .redirected line body redirects => do
      modify fun state => { state with line }
      let changes ← redirects.mapM (expandRedirect output)
      keepingChannels do
        if ← applyChanges output changes then inner tested body
        else
          setStatus brokenStatus
          stopAtFailure tested

end LintBroker.Shell
