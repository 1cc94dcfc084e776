/-
  LintBroker.Traced

  Computations that can fail and that leave a trace: the records they log and the
  engines they ask to be run, both in order.  A failure keeps the trace up to it.
-/
import LintBroker.Engine.Basic
import LintBroker.Journal.Record

namespace LintBroker

open LintBroker.Journal

/-- A result or a failure, with the trace of how it came about. -/
structure Traced (α : Type) where
  result : Except Failure α
  records : List Record := []
  requests : List EngineRequest := []

namespace Traced

/-- Ends with a value and leaves no trace. -/
protected def pure {α : Type} (a : α) : Traced α := ⟨.ok a, [], []⟩

/-- Goes on with the value of a computation, unless it failed; the traces follow each other. -/
protected def bind {α β : Type} (x : Traced α) (next : α → Traced β) : Traced β :=
  match x.result with
  | .error failure => ⟨.error failure, x.records, x.requests⟩
  | .ok a =>
    let y := next a
    ⟨y.result, x.records ++ y.records, x.requests ++ y.requests⟩

instance : Monad Traced where
  pure := Traced.pure
  bind := Traced.bind

/-- Ends with a failure. -/
def fail {α : Type} (failure : Failure) : Traced α := ⟨.error failure, [], []⟩

/-- Ends as a computation without a trace did. -/
def ofExcept {α : Type} (result : Except Failure α) : Traced α := ⟨result, [], []⟩

/-- Logs one record. -/
def log (record : Record) : Traced Unit := ⟨.ok (), [record], []⟩

/-- Notes that an engine is asked to run. -/
def request (r : EngineRequest) : Traced Unit := ⟨.ok (), [], [r]⟩

/-- Goes on after a failure as the handler says; the traces follow each other. -/
def handle {α : Type} (x : Traced α) (handler : Failure → Traced α) : Traced α :=
  match x.result with
  | .ok _ => x
  | .error failure =>
    let y := handler failure
    ⟨y.result, x.records ++ y.records, x.requests ++ y.requests⟩

end Traced

end LintBroker
