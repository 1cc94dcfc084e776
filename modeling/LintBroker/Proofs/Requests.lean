/-
  LintBroker.Proofs.Requests

  A request refines the call that it stands for.  Arguments that the listed schema of a
  tool rejects are answered at once: no call is made, and every call leaves a record, so
  the empty trace shows it.  All other requests are answered as the direct call is, but
  that a failure without a code of the protocol becomes a reply (`Mirrors`).
-/
import LintBroker.Proofs.Schema
import LintBroker.Tool.Server

namespace LintBroker.Tool

open LintBroker.Journal

variable {context : Context} {name : String}

/-! ## Calls -/

/-- Arguments as a call can be given them: a table, or null for none. -/
def givenArguments : Option Members → Datum
  | none => .null
  | some members => .table members

theorem requestArguments_givenArguments (given : Option Members) :
    requestArguments (givenArguments given) = given.getD [] := by
  cases given <;> rfl

/-- Null is as good as the empty table, but for the record about the call. -/
theorem call_givenArguments (context : Context) (name : String) (given : Option Members) :
    (call context name (givenArguments given)).result
        = (call context name (.table (given.getD []))).result
      ∧ (call context name (givenArguments given)).requests
        = (call context name (.table (given.getD []))).requests := by
  cases given with
  | some members => exact ⟨rfl, rfl⟩
  | none =>
    unfold call
    cases actions.lookup name with
    | none => exact ⟨rfl, rfl⟩
    | some action => exact ⟨rfl, rfl⟩

/-- Every call leaves a record. -/
theorem records_call_ne_nil (context : Context) (name : String) (arguments : Datum) :
    (call context name arguments).records ≠ [] := by
  unfold call
  cases actions.lookup name with
  | none => exact List.cons_ne_nil _ _
  | some action => exact List.append_ne_nil_of_right_ne_nil _ (List.cons_ne_nil _ _)

/-! ## Checks -/

/-- The tool that is found by a name is the one that has it. -/
theorem find?_catalog_eq_some_iff {spec : Spec} :
    (catalog.find? fun spec => spec.name == name) = some spec
      ↔ spec ∈ catalog ∧ spec.name = name := by
  constructor
  · intro h
    have hname := List.find?_some h
    exact ⟨List.mem_of_find?_eq_some h, beq_iff_eq.mp hname⟩
  · rintro ⟨hspec, rfl⟩
    simp only [catalog, List.mem_cons, List.not_mem_nil, or_false] at hspec
    rcases hspec with rfl | rfl | rfl <;> rfl

/-- The arguments are none that a tool of this name takes: it is offered, and its listed schema
    rejects them. -/
def Rejected (name : String) (arguments : Members) : Prop :=
  ∃ spec ∈ catalog, spec.name = name ∧ ¬ Accepts spec.inputSchema (.table arguments)

/-- Arguments that are rejected are found wrong. -/
theorem exists_violation_of_rejected {arguments : Members} (h : Rejected name arguments) :
    ∃ v, ((catalog.find? fun spec => spec.name == name).bind fun spec =>
      spec.violation? arguments) = some v := by
  obtain ⟨spec, hspec, hname, hrejected⟩ := h
  rw [find?_catalog_eq_some_iff.mpr ⟨hspec, hname⟩, Option.bind_some]
  rwa [← Spec.violation?_eq_none_iff_accepts, ← ne_eq, Option.ne_none_iff_exists'] at hrejected

/-- Arguments that are not rejected are found right, and so are those for a tool that is not
    offered. -/
theorem violation_of_not_rejected {arguments : Members} (h : ¬ Rejected name arguments) :
    ((catalog.find? fun spec => spec.name == name).bind fun spec =>
      spec.violation? arguments) = none := by
  rw [Option.bind_eq_none_iff]
  intro spec hfound
  obtain ⟨hspec, hname⟩ := find?_catalog_eq_some_iff.mp hfound
  rw [Spec.violation?_eq_none_iff_accepts]
  exact Classical.byContradiction fun hrejected => h ⟨spec, hspec, hname, hrejected⟩

/-! ## Requests -/

/-- How the answer to a request mirrors the end of a call: replies and errors of the protocol are
    passed on, and every other failure is told in a reply. -/
inductive Mirrors : Except Failure Reply → Except Failure Reply → Prop where
  | reply (reply : Reply) : Mirrors (.ok reply) (.ok reply)
  | protocol (code : Int) (message : String) :
      Mirrors (.error (.protocol code message)) (.error (.protocol code message))
  | told {failure : Failure} (hother : ∀ code message, failure ≠ .protocol code message) :
      Mirrors (.error failure) (.ok (Reply.error failure.message))

/-- A request with arguments that are found wrong is over before any call. -/
theorem handleRequest_of_rejected {given : Option Members} (h : Rejected name (given.getD [])) :
    ∃ fault, ∀ context parked, handleRequest context parked name (givenArguments given)
      = (pure (Reply.error ("Input validation error: " ++ fault)), parked) := by
  obtain ⟨v, hv⟩ := exists_violation_of_rejected h
  refine ⟨v.message, fun context parked => ?_⟩
  simp only [handleRequest, checkedCall, requestArguments_givenArguments, hv]
  rfl

/-- The call behind any other request is made, and how it ends is mirrored. -/
theorem mirrors_handleRequest {given : Option Members} (h : ¬ Rejected name (given.getD []))
    (parked : Option ProtocolError) :
    Mirrors (call context name (.table (given.getD []))).result
        (handleRequest context parked name (givenArguments given)).1.result
      ∧ (handleRequest context parked name (givenArguments given)).1.requests
        = (call context name (.table (given.getD []))).requests := by
  simp only [handleRequest, checkedCall, requestArguments_givenArguments,
    violation_of_not_rejected h, directCall]
  generalize call context name (.table (given.getD [])) = called
  obtain ⟨result, records, requests⟩ := called
  cases result with
  | ok reply => exact ⟨.reply reply, rfl⟩
  | error failure =>
    -- Only an error of the protocol is parked on the way, to be raised in the stead of the reply.
    cases failure with
    | protocol code message => exact ⟨.protocol code message, rfl⟩
    | _ => exact ⟨.told (fun _ _ h => nomatch h), rfl⟩

/-- A request refines the direct call, for every tool name and all arguments.  If a tool has the name
    and its listed schema rejects the arguments, null as the empty table, the answer is the same
    complaint in all surroundings: no engine runs and nothing is logged, so no call is made
    (`records_call_ne_nil`).  Otherwise the same engines run as in the direct call, and the answer
    mirrors its end. -/
theorem handleRequest_refines_call (name : String) (given : Option Members) :
    (Rejected name (given.getD []) →
      ∃ fault, ∀ context parked, handleRequest context parked name (givenArguments given)
        = (pure (Reply.error ("Input validation error: " ++ fault)), parked))
      ∧ (¬ Rejected name (given.getD []) → ∀ context parked earlier,
        Mirrors (directCall context earlier name (givenArguments given)).1.result
            (handleRequest context parked name (givenArguments given)).1.result
          ∧ (handleRequest context parked name (givenArguments given)).1.requests
            = (directCall context earlier name (givenArguments given)).1.requests) := by
  refine ⟨handleRequest_of_rejected, fun h context parked earlier => ?_⟩
  obtain ⟨hresult, hrequests⟩ := call_givenArguments context name given
  show Mirrors (call context name (givenArguments given)).result _
    ∧ _ = (call context name (givenArguments given)).requests
  rw [hresult, hrequests]
  exact mirrors_handleRequest h parked

/-- Requests without arguments: one for suggestions is rejected, and one for a tool that is not
    offered is answered with the error of the protocol that the call raises. -/
theorem handleRequest_refines_call_absentArguments :
    Rejected getFixSuggestions.name []
      ∧ (∃ fault, ∀ context parked, handleRequest context parked getFixSuggestions.name .null
        = (pure (Reply.error ("Input validation error: " ++ fault)), parked))
      ∧ ¬ Rejected "lint" []
      ∧ ∀ context parked, (handleRequest context parked "lint" .null).1.result
        = .error (.protocol methodNotFound "Unknown tool: lint") := by
  have hrejected : Rejected getFixSuggestions.name [] := by
    refine ⟨getFixSuggestions, by decide, rfl, fun haccepts => ?_⟩
    rw [Spec.accepts_inputSchema_iff] at haccepts
    cases haccepts.required "path" (by decide)
  have haccepted : ¬ Rejected "lint" [] := by
    rintro ⟨spec, hspec, hname, -⟩
    simp only [catalog, List.mem_cons, List.not_mem_nil, or_false] at hspec
    rcases hspec with rfl | rfl | rfl <;> exact absurd hname (by decide)
  refine ⟨hrejected, (handleRequest_refines_call _ none).1 hrejected, haccepted, ?_⟩
  intro context parked
  obtain ⟨hmirrors, -⟩ := (handleRequest_refines_call "lint" none).2 haccepted context parked none
  have hcall : (directCall context none "lint" (givenArguments none)).1.result
      = .error (.protocol methodNotFound "Unknown tool: lint") := rfl
  rw [hcall] at hmirrors
  show (handleRequest context parked "lint" (givenArguments none)).1.result = _
  generalize (handleRequest context parked "lint" (givenArguments none)).1.result = answered
    at hmirrors
  cases hmirrors with
  | protocol => rfl
  | told hother => exact absurd rfl (hother _ _)

end LintBroker.Tool
