/-
  LintBroker.Proofs.Session

  Calls of a session do not get in each other's way.  What one call answers depends on
  its own surroundings alone, whatever happened before it.  A direct call may leave an
  error of the protocol parked; a request parks its own one on the way and puts back
  what it found.
-/
import LintBroker.Session.Serving
import Mathlib.Data.List.Forall2

namespace LintBroker

open LintBroker.Journal LintBroker.Number

/-! ## One request -/

namespace Tool

/-- What is parked has no part in the answer to a request, and is parked again after it: the error
    that the request itself parks is raised, and goes no further. -/
theorem handleRequest_eq (context : Context) (parked : Option ProtocolError) (name : String)
    (arguments : Datum) :
    handleRequest context parked name arguments
      = ((handleRequest context none name arguments).1, parked) := by
  unfold handleRequest
  generalize checkedCall context none name (requestArguments arguments) = checked
  obtain ⟨called, raised⟩ := checked
  cases raised <;> rfl

end Tool

namespace Session

/-- The event is a call. -/
def Event.isCall : Event → Bool
  | .call .. => true
  | _ => false

/-- The session after events, up to the one that ends it. -/
def Serving.after (serving : Serving) (time : String) : List Event → Serving
  | .call asRequest name arguments host elapsed :: rest =>
    (answer serving time asRequest name arguments ⟨host, serving.engines, elapsed⟩).2.after time
      rest
  | _ => serving

variable (serving : Serving) (time : String)

/-- The answer to a call is settled by its own surroundings. -/
theorem answer_fst (asRequest : Bool) (name : String) (arguments : Datum)
    (context : Tool.Context) :
    (answer serving time asRequest name arguments context).1
      = if asRequest then (Tool.handleRequest context none name arguments).1
        else Tool.call context name arguments := by
  cases asRequest with
  | false => rfl
  | true => exact congrArg Prod.fst (Tool.handleRequest_eq ..)

/-- A request leaves what is parked, and every call the engines. -/
theorem answer_snd (asRequest : Bool) (name : String) (arguments : Datum)
    (context : Tool.Context) :
    (answer serving time asRequest name arguments context).2.engines = serving.engines
      ∧ (asRequest = true →
        (answer serving time asRequest name arguments context).2.parked = serving.parked) := by
  refine ⟨rfl, ?_⟩
  rintro rfl
  exact congrArg Prod.snd (Tool.handleRequest_eq ..)

/-! ## A whole session -/

/-- What follows a run of calls is served as after it. -/
theorem serve_append (calls rest : List Event) (hcalls : ∀ event ∈ calls, event.isCall = true) :
    (serve serving time (calls ++ rest)).1
      = (serve serving time calls).1 ++ (serve (serving.after time calls) time rest).1 := by
  induction calls generalizing serving with
  | nil => rfl
  | cons event others ih =>
    have hothers : ∀ e ∈ others, e.isCall = true := fun e he => hcalls e (List.mem_cons_of_mem _ he)
    cases event with
    | call asRequest name arguments host elapsed => exact congrArg (List.cons _) (ih _ hothers)
    | interrupt => exact nomatch hcalls _ (List.mem_cons_self ..)
    | fail failure => exact nomatch hcalls _ (List.mem_cons_self ..)

/-- A call is answered as it is alone, by a server with the same engines that was just started. -/
def AnsweredAlone (engines : EngineTable) (event : Event) (answered : Traced Tool.Reply) : Prop :=
  ∀ book moment, (serve { engines, book } moment [event]).1 = [answered]

theorem answeredAlone_serve (calls : List Event) (hcalls : ∀ event ∈ calls, event.isCall = true) :
    List.Forall₂ (AnsweredAlone serving.engines) calls (serve serving time calls).1 := by
  induction calls generalizing serving with
  | nil => exact .nil
  | cons event others ih =>
    have hothers : ∀ e ∈ others, e.isCall = true := fun e he => hcalls e (List.mem_cons_of_mem _ he)
    cases event with
    | call asRequest name arguments host elapsed =>
      have hrest := ih (answer serving time asRequest name arguments
        ⟨host, serving.engines, elapsed⟩).2 hothers
      rw [(answer_snd ..).1] at hrest
      refine .cons (fun book moment => ?_) hrest
      show [(answer _ moment asRequest name arguments _).1]
        = [(answer serving time asRequest name arguments _).1]
      rw [answer_fst, answer_fst]
    | interrupt => exact nomatch hcalls _ (List.mem_cons_self ..)
    | fail failure => exact nomatch hcalls _ (List.mem_cons_self ..)

/-- A request behind any events leaves what they left parked. -/
theorem parked_after_request (before : List Event) (name : String) (arguments : Datum) (host : Host)
    (elapsed : Binary64) :
    (serving.after time (before ++ [.call true name arguments host elapsed])).parked
      = (serving.after time before).parked := by
  induction before generalizing serving with
  | nil => exact (answer_snd ..).2 rfl
  | cons event others ih =>
    cases event with
    | call asRequest _ _ _ _ => exact ih _
    | interrupt => rfl
    | fail failure => rfl

/-- However calls and requests follow each other, and whatever is parked at first, each of them is
    answered as it would be alone, and no request changes what is parked. -/
theorem serve_answers_alone (events : List Event) :
    List.Forall₂ (AnsweredAlone serving.engines) (events.takeWhile Event.isCall)
        (serve serving time events).1
      ∧ ∀ before name arguments host elapsed,
        (serving.after time (before ++ [.call true name arguments host elapsed])).parked
          = (serving.after time before).parked := by
  refine ⟨?_, parked_after_request serving time⟩
  have hcalls : ∀ event ∈ events.takeWhile Event.isCall, event.isCall = true :=
    List.all_eq_true.mp List.all_takeWhile
  have hended : ∀ left : Serving, (serve left time (events.dropWhile Event.isCall)).1 = [] := by
    intro left
    have hhead := List.head?_dropWhile_not Event.isCall events
    cases hrest : events.dropWhile Event.isCall with
    | nil => rfl
    | cons event rest =>
      rw [hrest] at hhead
      cases event with
      | call => cases hhead
      | interrupt => rfl
      | fail failure => rfl
  have hanswers := serve_append serving time (events.takeWhile Event.isCall)
    (events.dropWhile Event.isCall) hcalls
  rw [List.takeWhile_append_dropWhile, hended, List.append_nil] at hanswers
  rw [hanswers]
  exact answeredAlone_serve serving time _ hcalls

end Session

end LintBroker
