/-
  LintBroker.Tool.Server

  Calls of tools.  A call looks up the tool, runs it and logs one record.  A request
  checks the arguments first and turns every failure into a reply; an error that the
  protocol has a code for is parked on the way and raised after all.
-/
import LintBroker.Tool.Action

namespace LintBroker.Tool

open LintBroker.Journal LintBroker.Number LintBroker.Text

/-! ## Single calls -/

/-- The record about a call. -/
def callRecord (level : Level) (message name : String) (arguments : Datum) : Record :=
  { logger := mainLogger, level, message, tool := some (.text name), args := some arguments }

/-- Logs how a call ended, after everything that it logged itself. -/
def recordEnd (context : Context) (name : String) (arguments : Datum) (called : Traced Reply) :
    Traced Reply :=
  let record :=
    match called.result with
    | .error failure =>
      { callRecord .error "tool_error" name arguments with failure := some failure }
    | .ok reply =>
      if reply.isError then
        { callRecord .warning "tool_error_result" name arguments with
          duration := some (.float context.elapsed), error := some (.text reply.text) }
      else
        { callRecord .info "tool_call" name arguments with
          duration := some (.float context.elapsed) }
  { called with records := called.records ++ [record] }

/-- Arguments that are as good as none are the empty table. -/
def orEmpty (arguments : Datum) : Datum := if arguments.truthy then arguments else .table []

/-- Calls the tool of a name. -/
def call (context : Context) (name : String) (arguments : Datum) : Traced Reply :=
  match actions.lookup name with
  | none => do
    Traced.log
      { logger := mainLogger, level := .warning, message := "unknown_tool"
        tool := some (.text name) }
    .fail (.protocol methodNotFound ("Unknown tool: " ++ name))
  | some action => recordEnd context name arguments (action context (orEmpty arguments))

/-! ## Calls in a session -/

/-- An error of the protocol that waits to be raised. -/
structure ProtocolError where
  code : Int
  message : String
  deriving DecidableEq, Repr

/-- The failure that raises a parked error. -/
def ProtocolError.failure (e : ProtocolError) : Failure := .protocol e.code e.message

/-- What is parked after a call: its own error of the protocol, or what was there before. -/
def parkedAfter (parked : Option ProtocolError) (called : Traced Reply) : Option ProtocolError :=
  match called.result with
  | .error (.protocol code message) => some ⟨code, message⟩
  | _ => parked

/-- A call that is made directly: its answer, and what is parked then. -/
def directCall (context : Context) (parked : Option ProtocolError) (name : String)
    (arguments : Datum) : Traced Reply × Option ProtocolError :=
  let called := call context name arguments
  (called, parkedAfter parked called)

/-- The reply to a request whose arguments are wrong. -/
def violationReply (v : Violation) : Reply := Reply.error ("Input validation error: " ++ v.message)

/-- Every failure as a reply. -/
def asReply (called : Traced Reply) : Traced Reply :=
  match called.result with
  | .ok _ => called
  | .error failure => { called with result := .ok (Reply.error failure.message) }

/-- Checks the arguments against the tool, if it is offered, and calls it. -/
def checkedCall (context : Context) (parked : Option ProtocolError) (name : String)
    (arguments : Members) : Traced Reply × Option ProtocolError :=
  let spec? := catalog.find? fun spec => spec.name == name
  match spec?.bind fun spec => spec.violation? arguments with
  | some v => (pure (violationReply v), parked)
  | none =>
    let (called, parked) := directCall context parked name (.table arguments)
    (asReply called, parked)

/-- The arguments of a request; null stands for none. -/
def requestArguments : Datum → Members
  | .table members => members
  | _ => []

/-- A request: nothing is parked while it runs, what it parks is raised in the stead of its reply,
    and then the parked error is again the one from before. -/
def handleRequest (context : Context) (parked : Option ProtocolError) (name : String)
    (arguments : Datum) : Traced Reply × Option ProtocolError :=
  let (called, raised) := checkedCall context none name (requestArguments arguments)
  match raised with
  | some e => ({ called with result := .error e.failure }, parked)
  | none => (called, parked)

end LintBroker.Tool
