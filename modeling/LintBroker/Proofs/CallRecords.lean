/-
  LintBroker.Proofs.CallRecords

  What is logged about a call.  The parts of the library log in names of their own
  (`ByPart`), so a fault of an engine leaves records without being an error of the
  call.  Behind all of them the call itself logs exactly one record, in the name of the
  library, and that record alone tells how the call ended (`Tells`).
-/
import LintBroker.Engine.Run
import LintBroker.Proofs.CallEnds

namespace LintBroker

open LintBroker.Files LintBroker.Journal LintBroker.Report

/-! ## Records of the parts -/

namespace Traced

variable {α β : Type} {test : Record → Prop}

/-- Every record of a computation passes a test. -/
def Logs (test : Record → Prop) (x : Traced α) : Prop := ∀ record ∈ x.records, test record

theorem logs_pure (a : α) : (pure a : Traced α).Logs test := fun _ h => nomatch h

theorem logs_fail (failure : Failure) : (fail failure : Traced α).Logs test := fun _ h => nomatch h

theorem logs_ofExcept (result : Except Failure α) : (ofExcept result).Logs test :=
  fun _ h => nomatch h

theorem logs_request (r : EngineRequest) : (request r).Logs test := fun _ h => nomatch h

theorem logs_log {record : Record} (h : test record) : (log record).Logs test := by
  intro r hr
  rw [List.mem_singleton.mp hr]
  exact h

theorem Logs.bind {x : Traced α} {next : α → Traced β} (hx : x.Logs test)
    (hnext : ∀ a, (next a).Logs test) : (x >>= next).Logs test := by
  cases h : x.result with
  | error failure =>
    rw [bind_of_error h]
    exact hx
  | ok a =>
    rw [bind_of_ok h]
    intro record hrecord
    rcases List.mem_append.mp hrecord with hfirst | hsecond
    · exact hx record hfirst
    · exact hnext a record hsecond

theorem Logs.handle {x : Traced α} {handler : Failure → Traced α} (hx : x.Logs test)
    (hhandler : ∀ failure, (handler failure).Logs test) : (x.handle handler).Logs test := by
  cases h : x.result with
  | ok a =>
    rw [handle_of_ok h]
    exact hx
  | error failure =>
    rw [handle_of_error h]
    intro record hrecord
    rcases List.mem_append.mp hrecord with hfirst | hsecond
    · exact hx record hfirst
    · exact hhandler failure record hsecond

end Traced

/-- The record is logged in the name of a part of the library, not in that of the whole. -/
def ByPart (record : Record) : Prop := record.logger ≠ mainLogger

theorem loggerOf_ne_mainLogger (part : String) : loggerOf part ≠ mainLogger := by
  intro h
  have hlength := congrArg String.length h
  rw [loggerOf, String.length_append, String.length_append] at hlength
  have hdot : ".".length = 1 := rfl
  omega

/-- The engine runs of a host log in the names of parts only. -/
def Host.LogsByParts (host : Host) : Prop := ∀ request, (host.run request).Logs ByPart

/-- A run on the system logs the argument list that it starts, and nothing else. -/
theorem logs_runEngine {test : Record → Prop} (launcher : Program.Launcher)
    (request : EngineRequest) (h : ∀ command, test (runRecord request.engine command)) :
    (runEngine launcher request).Logs test := by
  cases hcommand : buildCommand request with
  | error failure =>
    rw [runEngine_of_refused hcommand]
    exact Traced.logs_fail _
  | ok command =>
    unfold Traced.Logs
    rw [(trace_of_buildCommand hcommand launcher).1]
    exact List.forall_mem_singleton.mpr (h command)

/-- A run on the system logs in the name of the engines. -/
theorem byPart_runEngine (launcher : Program.Launcher) (request : EngineRequest) :
    (runEngine launcher request).Logs ByPart :=
  logs_runEngine launcher request fun _ => loggerOf_ne_mainLogger _

/-! ## Records of an analysis -/

/-- The names in which an analysis logs by itself. -/
def analysisLoggers : List String :=
  [loggerOf "analyzers", loggerOf "analyzers.common", loggerOf "analyzers.python"]

theorem byPart_of_mem_analysisLoggers {record : Record} (h : record.logger ∈ analysisLoggers) :
    ByPart record := by
  unfold ByPart
  simp only [analysisLoggers, List.mem_cons, List.not_mem_nil, or_false] at h
  rcases h with h | h | h <;> rw [h] <;> exact loggerOf_ne_mainLogger _

section Analysis

variable {host : Host} {test : Record → Prop}
  (hown : ∀ record, record.logger ∈ analysisLoggers → test record)

theorem Host.logs_ask (hrun : ∀ request, (host.run request).Logs test) (request : EngineRequest) :
    (host.ask request).Logs test :=
  (Traced.logs_request request).bind fun _ => hrun request

include hown

theorem logs_readReport (streams : List String) : (readReport streams).Logs test := by
  induction streams with
  | nil => exact Traced.logs_fail _
  | cons stream rest ih =>
    simp only [readReport]
    split
    · exact ih
    · split
      · exact Traced.logs_pure _
      · exact Traced.logs_fail _
      · have hname : (notReport (Text.strip stream)).logger ∈ analysisLoggers := by
          simp [analysisLoggers, notReport]
        exact (Traced.logs_log (hown _ hname)).bind fun _ => ih

theorem logs_scriptIssues (run : EngineRun) : (scriptIssues run).Logs test := by
  unfold scriptIssues
  split
  · exact Traced.logs_fail _
  · exact (logs_readReport hown _).bind fun _ => Traced.logs_ofExcept _

theorem logs_pageIssues (target : String) (run : EngineRun) :
    (pageIssues target run).Logs test :=
  ((logs_readReport hown _).handle fun _ => Traced.logs_fail _).bind fun _ =>
    Traced.logs_ofExcept _

theorem logs_styleIssues (run : EngineRun) : (styleIssues run).Logs test := by
  unfold styleIssues
  split
  · exact Traced.logs_fail _
  · exact (logs_readReport hown _).bind fun _ => Traced.logs_ofExcept _

theorem logs_pythonIssues (target : String) (run : EngineRun) :
    (pythonIssues target run).Logs test := by
  simp only [pythonIssues]
  split
  · refine (Traced.logs_log (hown _ ?_)).bind fun _ => Traced.logs_ofExcept _
    simp [analysisLoggers]
  · exact Traced.logs_ofExcept _

theorem Linter.logs_settle (linter : Linter) (failure : Failure) :
    (linter.settle failure).Logs test := by
  unfold settle
  split
  · exact (Traced.logs_log (hown _ (List.mem_cons_self ..))).bind fun _ => Traced.logs_pure _
  · exact Traced.logs_fail _

variable (hrun : ∀ request, (host.run request).Logs test)

include hrun

theorem Linter.logs_lint (linter : Linter) (engine : Engine) (target : String) (fix : Bool) :
    (linter.lint host engine target fix).Logs test := by
  cases linter with
  | script => exact (Host.logs_ask hrun _).bind (logs_scriptIssues hown)
  | page =>
    refine (Traced.logs_ofExcept _).bind fun _ => ?_
    exact (Host.logs_ask hrun _).bind (logs_pageIssues hown target)
  | style => exact (Host.logs_ask hrun _).bind (logs_styleIssues hown)
  | python => exact (Host.logs_ask hrun _).bind (logs_pythonIssues hown target)

theorem Linter.logs_attempt (linter : Linter) (engine : Engine) (path : String) (fix : Bool) :
    (linter.attempt host engine path fix).Logs test := by
  refine (Traced.logs_ofExcept _).bind fun target => ?_
  exact (linter.logs_lint hown hrun engine target fix).bind fun _ => Traced.logs_pure _

/-- An analysis logs in names of its own, the error of a fault included, and what its engine runs
    log. -/
theorem logs_analyzeFile (table : EngineTable) (path language : String) (fix : Bool) :
    (analyzeFile host table path language fix).Logs test := by
  refine (Traced.logs_ofExcept _).bind fun linter => ?_
  simp only
  split
  · exact Traced.logs_fail _
  · exact (linter.logs_attempt hown hrun _ path fix).handle (linter.logs_settle hown)

end Analysis

namespace Tool

variable {context : Context}

/-! ## Records of the tools -/

section Tools

variable {test : Record → Prop}

theorem logs_analysisFailure (failure : Failure) : (analysisFailure failure).Logs test := by
  unfold analysisFailure
  split
  · exact Traced.logs_fail _
  · split
    · exact Traced.logs_pure _
    · exact Traced.logs_fail _

theorem logs_fix (arguments : Datum) : (Tool.fix arguments).Logs test := by
  unfold Tool.fix
  split
  · exact Traced.logs_pure _
  · exact Traced.logs_pure _

theorem logs_suggest (arguments : Datum) : (suggest arguments).Logs test := by
  unfold suggest
  split
  · exact Traced.logs_pure _
  · exact Traced.logs_pure _
  · exact Traced.logs_fail _

variable (hown : ∀ record, record.logger ∈ analysisLoggers → test record)
  (hrun : ∀ request, (context.host.run request).Logs test)

include hown hrun

theorem logs_analyze (arguments : Datum) : (analyze context arguments).Logs test := by
  rcases analyze_cases context arguments with
    ⟨complaint, hcomplaint⟩ | ⟨failure, -, hfailure⟩ | ⟨members, path, fix, -, -, -, -, hgo⟩
  · rw [hcomplaint]
    exact Traced.logs_pure _
  · rw [hfailure]
    exact Traced.logs_fail _
  · rw [hgo]
    refine Traced.Logs.handle ?_ logs_analysisFailure
    refine (Traced.logs_ofExcept _).bind fun _ => (Traced.logs_ofExcept _).bind fun _ => ?_
    exact (logs_analyzeFile hown hrun _ _ _ _).bind fun _ => Traced.logs_pure _

/-- Whatever a tool logs is logged by an analysis. -/
theorem logs_action {name : String} {action : Action}
    (haction : actions.lookup name = some action) (arguments : Datum) :
    (action context arguments).Logs test := by
  rcases action_cases haction with ⟨-, rfl⟩ | ⟨-, rfl⟩ | ⟨-, rfl⟩
  · exact logs_analyze hown hrun arguments
  · exact logs_fix arguments
  · exact logs_suggest arguments

end Tools

/-! ## The record of the call -/

/-- A tool of this name is listed. -/
def Offered (name : String) : Prop := name ∈ catalog.map Spec.name

instance (name : String) : Decidable (Offered name) := inferInstanceAs (Decidable (_ ∈ _))

/-- The tools that are listed are those that can be called. -/
theorem lookup_actions_eq_none_iff {name : String} :
    actions.lookup name = none ↔ ¬ Offered name :=
  lookup_eq_none_iff_not_mem

theorem offered_of_lookup_actions {name : String} {action : Action}
    (h : actions.lookup name = some action) : Offered name := by
  by_contra hnot
  rw [lookup_actions_eq_none_iff.mpr hnot] at h
  cases h

/-- A record tells how a call ended: it names the tool and holds the arguments as they were given,
    and each kind of record stands for one kind of end, with the failure or the complaint itself. -/
structure Tells (name : String) (arguments : Datum) (result : Except Failure Reply)
    (record : Record) : Prop where
  logger : record.logger = mainLogger
  tool : record.tool = some (.text name)
  args : record.args = if Offered name then some arguments else none
  unknown : record.level = .warning ∧ record.message = "unknown_tool" ↔ ¬ Offered name
  raised : ∀ failure, record.level = .error ∧ record.message = "tool_error"
    ∧ record.failure = some failure ↔ Offered name ∧ result = .error failure
  flagged : ∀ complaint, record.level = .warning ∧ record.message = "tool_error_result"
    ∧ record.error = some (.text complaint) ↔ result = .ok (Reply.error complaint)
  answered : record.level = .info ∧ record.message = "tool_call"
    ↔ ∃ text, result = .ok ⟨false, text⟩

/-- The record about a call of a tool that is not offered. -/
theorem tells_unknownTool (h : ¬ Offered name) (arguments : Datum) (code : Int) (message : String) :
    Tells name arguments (.error (.protocol code message))
      { logger := mainLogger, level := .warning, message := "unknown_tool"
        tool := some (.text name) } where
  logger := rfl
  tool := rfl
  args := (if_neg h).symm
  unknown := iff_of_true ⟨rfl, rfl⟩ h
  raised _ := iff_of_false (fun hrecord => nomatch hrecord.1) fun hend => h hend.1
  flagged _ := iff_of_false
    (fun hrecord => absurd (show "unknown_tool" = "tool_error_result" from hrecord.2.1) (by decide))
    fun hend => nomatch hend
  answered := iff_of_false (fun hrecord => nomatch hrecord.1) fun ⟨_, hend⟩ => nomatch hend

/-- The record behind all others of a call is about how it ended. -/
theorem tells_recordEnd (h : Offered name) (context : Context) (arguments : Datum)
    (called : Traced Reply) :
    ∃ record, (recordEnd context name arguments called).records = called.records ++ [record]
      ∧ Tells name arguments called.result record := by
  obtain ⟨result, records, requests⟩ := called
  refine ⟨_, rfl, ?_⟩
  cases result with
  | error failure =>
    exact {
      logger := rfl
      tool := rfl
      args := (if_pos h).symm
      unknown := iff_of_false (fun hrecord => nomatch hrecord.1) (not_not_intro h)
      raised := fun other => by
        constructor
        · rintro ⟨-, -, hfailure⟩
          cases hfailure
          exact ⟨h, rfl⟩
        · rintro ⟨-, hresult⟩
          cases hresult
          exact ⟨rfl, rfl, rfl⟩
      flagged := fun _ => iff_of_false (fun hrecord => nomatch hrecord.1) fun hend => nomatch hend
      answered := iff_of_false (fun hrecord => nomatch hrecord.1) fun ⟨_, hend⟩ => nomatch hend }
  | ok reply =>
    obtain ⟨isError, text⟩ := reply
    cases isError with
    | true =>
      exact {
        logger := rfl
        tool := rfl
        args := (if_pos h).symm
        unknown := iff_of_false
          (fun hrecord =>
            absurd (show "tool_error_result" = "unknown_tool" from hrecord.2) (by decide))
          (not_not_intro h)
        raised := fun _ => iff_of_false (fun hrecord => nomatch hrecord.1) fun hend => nomatch hend.2
        flagged := fun complaint => by
          constructor
          · rintro ⟨-, -, htext⟩
            cases htext
            rfl
          · intro hresult
            cases hresult
            exact ⟨rfl, rfl, rfl⟩
        answered := iff_of_false (fun hrecord => nomatch hrecord.1) fun ⟨_, hend⟩ => nomatch hend }
    | false =>
      exact {
        logger := rfl
        tool := rfl
        args := (if_pos h).symm
        unknown := iff_of_false (fun hrecord => nomatch hrecord.1) (not_not_intro h)
        raised := fun _ => iff_of_false (fun hrecord => nomatch hrecord.1) fun hend => nomatch hend.2
        flagged := fun _ => iff_of_false (fun hrecord => nomatch hrecord.1) fun hend => nomatch hend
        answered := iff_of_true ⟨rfl, rfl⟩ ⟨text, rfl⟩ }

/-- Every call, of any tool with arguments of any shape, on a host whose engine runs log in the names
    of parts: the last record of the call is the only one that is not a part's, and it tells how the
    call ended. -/
theorem call_tells (hrun : context.host.LogsByParts) (name : String) (arguments : Datum) :
    ∃ own record, (call context name arguments).records = own ++ [record]
      ∧ (∀ r ∈ own, ByPart r)
      ∧ Tells name arguments (call context name arguments).result record := by
  unfold call
  cases haction : actions.lookup name with
  | none =>
    exact ⟨[], _, rfl, List.forall_mem_nil _,
      tells_unknownTool (lookup_actions_eq_none_iff.mp haction) arguments _ _⟩
  | some action =>
    obtain ⟨record, hrecords, htells⟩ := tells_recordEnd (offered_of_lookup_actions haction) context
      arguments (action context (orEmpty arguments))
    exact ⟨_, record, hrecords,
      logs_action (fun _ => byPart_of_mem_analysisLoggers) hrun haction _, htells⟩

/-- An analysis on the host on which every engine breaks down logs the breakdown in the name of a
    part, and the call is logged as one that was answered. -/
theorem call_tells_brokenContext :
    brokenContext.host.LogsByParts
      ∧ ∃ breakdown record, ByPart breakdown
        ∧ (call brokenContext analyzeCode.name (.table commonArguments)).records
          = [breakdown, record]
        ∧ Tells analyzeCode.name (.table commonArguments)
          (call brokenContext analyzeCode.name (.table commonArguments)).result record
        ∧ record.message = "tool_call" := by
  have hrun : brokenContext.host.LogsByParts := fun request => Traced.logs_fail _
  obtain ⟨own, record, hrecords, hown, htells⟩ :=
    call_tells hrun analyzeCode.name (.table commonArguments)
  have hlength :
      (call brokenContext analyzeCode.name (.table commonArguments)).records.length = 2 := by
    decide +kernel
  have hanswered : (call brokenContext analyzeCode.name (.table commonArguments)).result.toOption.map
      Reply.isError = some false := by
    decide +kernel
  rw [hrecords, List.length_append, List.length_singleton] at hlength
  obtain ⟨breakdown, rfl⟩ := List.length_eq_one_iff.mp (Nat.succ.inj hlength)
  refine ⟨hrun, breakdown, record, hown breakdown (List.mem_singleton_self _), hrecords, htells, ?_⟩
  refine (htells.answered.mpr ?_).2
  cases hresult : (call brokenContext analyzeCode.name (.table commonArguments)).result with
  | error failure =>
    rw [hresult] at hanswered
    cases hanswered
  | ok reply =>
    rw [hresult] at hanswered
    obtain ⟨isError, text⟩ := reply
    cases hanswered
    exact ⟨text, rfl⟩

end Tool

end LintBroker
