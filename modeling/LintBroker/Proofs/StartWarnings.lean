/-
  LintBroker.Proofs.StartWarnings

  Warnings about the configuration of a session.  They are logged while the engines are
  loaded, before the session has a journal, and nothing logs in their names later
  (`AboutConfig`).  A line tells the logger of its record, so none of them is in the
  log of the session.
-/
import LintBroker.Proofs.CallRecords
import LintBroker.Proofs.JsonText
import LintBroker.Proofs.SessionLog

namespace LintBroker

open LintBroker.Files LintBroker.Journal

/-! ## Records of the configuration -/

/-- The names in which a configuration is read. -/
def configLoggers : List String := [loggerOf "core", loggerOf "engines"]

/-- The record is notable and is logged in a name in which a configuration is read. -/
def AboutConfig (record : Record) : Prop :=
  Session.notable record = true ∧ record.logger ∈ configLoggers

theorem aboutConfig_unreadable (path reason : String) :
    AboutConfig (Project.unreadable path reason) :=
  ⟨rfl, List.mem_cons_self ..⟩

theorem aboutConfig_engineWarning (message : String) : AboutConfig (engineWarning message) :=
  ⟨rfl, List.mem_cons_of_mem _ (List.mem_cons_self ..)⟩

theorem logs_readConfig (disk : Disk) (directory : String) :
    (Project.readConfig disk directory).Logs AboutConfig := by
  refine (Traced.logs_ofExcept _).bind fun isThere => ?_
  split
  · exact Traced.logs_pure _
  · split
    · exact (Traced.logs_log (aboutConfig_unreadable ..)).bind fun _ => Traced.logs_pure _
    · split
      · exact Traced.logs_pure _
      · exact (Traced.logs_log (aboutConfig_unreadable ..)).bind fun _ => Traced.logs_pure _
      · exact Traced.logs_fail _

theorem logs_applyOverrides (entries : Members) (table : EngineTable) :
    (applyOverrides table entries).Logs AboutConfig := by
  induction entries generalizing table with
  | nil => exact Traced.logs_pure _
  | cons entry rest ih =>
    obtain ⟨name, value⟩ := entry
    simp only [applyOverrides]
    split
    · exact (Traced.logs_log (aboutConfig_engineWarning _)).bind fun _ => ih _
    · exact (Traced.logs_ofExcept _).bind fun _ => ih _

theorem logs_loadEngines (config : Members) : (loadEngines config).Logs AboutConfig := by
  unfold loadEngines
  split
  · exact Traced.logs_pure _
  · exact logs_applyOverrides _ _
  · exact (Traced.logs_log (aboutConfig_engineWarning _)).bind fun _ => Traced.logs_pure _

/-- Whatever is logged while the engines are loaded is about the configuration. -/
theorem Session.logs_loaded (disk : Disk) (directory : Option String) :
    (loaded disk directory).Logs AboutConfig := by
  cases directory with
  | none => exact (Traced.logs_pure _).bind logs_loadEngines
  | some directory => exact (logs_readConfig disk directory).bind logs_loadEngines

/-- The library and the analyses log in other names. -/
theorem not_aboutConfig {record : Record} (h : record.logger ∈ mainLogger :: analysisLoggers) :
    ¬ AboutConfig record := by
  have hnames : ∀ name ∈ mainLogger :: analysisLoggers, name ∉ configLoggers := by decide +kernel
  exact fun habout => hnames _ h habout.2

/-! ## Records of calls -/

namespace Tool

variable (context : Context) {test : Record → Prop}

theorem logs_call (hown : ∀ record, record.logger ∈ analysisLoggers → test record)
    (hmain : ∀ record, record.logger = mainLogger → test record)
    (hrun : ∀ request, (context.host.run request).Logs test) (name : String) (arguments : Datum) :
    (call context name arguments).Logs test := by
  unfold call
  split
  · exact (Traced.logs_log (hmain _ rfl)).bind fun _ => Traced.logs_fail _
  · rename_i action haction
    obtain ⟨last, hrecords, htells⟩ := tells_recordEnd (offered_of_lookup_actions haction) context
      arguments (action context (orEmpty arguments))
    unfold Traced.Logs
    rw [hrecords]
    intro record hrecord
    rcases List.mem_append.mp hrecord with hpart | hlast
    · exact logs_action hown hrun haction _ record hpart
    · rw [List.mem_singleton.mp hlast]
      exact hmain last htells.logger

theorem logs_handleRequest {parked : Option ProtocolError} {name : String}
    (h : ∀ members, (call context name (.table members)).Logs test) (arguments : Datum) :
    (handleRequest context parked name arguments).1.Logs test := by
  have hchecked : (checkedCall context none name (requestArguments arguments)).1.Logs test := by
    simp only [checkedCall, directCall, asReply]
    split
    · exact Traced.logs_pure _
    · split
      · exact h _
      · exact h _
  unfold handleRequest
  generalize checkedCall context none name (requestArguments arguments) = checked at hchecked ⊢
  obtain ⟨called, raised⟩ := checked
  cases raised with
  | none => exact hchecked
  | some e => exact hchecked

end Tool

/-! ## Lines -/

/-- A line tells the logger of its record. -/
theorem Journal.logger_eq_of_line_eq {record other : Record} {time moment : String}
    (h : record.line time = other.line moment) : record.logger = other.logger := by
  -- The time, the level and the logger are the first strings of a line, each behind the same text.
  have hchars := String.ofList_injective h
  simp only [Record.datum, Json.valueChars, Json.restMemberChars, List.cons_append,
    List.append_assoc, List.cons.injEq, true_and, List.append_cancel_left_eq] at hchars
  obtain ⟨-, hlevel⟩ := Json.stringChars_append_inj hchars
  simp only [List.append_cancel_left_eq, List.cons.injEq, true_and, List.nil_append] at hlevel
  obtain ⟨-, hlogger⟩ := Json.stringChars_append_inj hlevel
  simp only [List.append_cancel_left_eq, List.cons.injEq, true_and] at hlogger
  exact (Json.stringChars_append_inj hlogger).1

/-! ## Sessions -/

namespace Session

/-- If the event is a call, then its host logs nothing about a configuration in an engine run. -/
def Event.LeavesConfig : Event → Prop
  | .call _ _ _ host _ => ∀ request, (host.run request).Logs fun record => ¬ AboutConfig record
  | _ => True

/-- A run on the system logs nothing notable. -/
theorem leavesConfig_runEngine {host : Host} {launcher : Program.Launcher}
    (hrun : host.run = runEngine launcher) (asRequest : Bool) (name : String) (arguments : Datum)
    (elapsed : Number.Binary64) :
    (Event.call asRequest name arguments host elapsed).LeavesConfig := by
  intro request
  rw [hrun]
  exact logs_runEngine launcher request fun command habout => nomatch habout.1

section Answers

variable {engines : EngineTable} {events : List Event}
  (hcalls : ∀ event ∈ events, event.LeavesConfig)

include hcalls

/-- No call logs anything about a configuration. -/
theorem logs_of_mem_answers {called : Traced Tool.Reply} (h : called ∈ answers engines events) :
    called.Logs fun record => ¬ AboutConfig record := by
  obtain ⟨event, hevent, hanswer⟩ := List.mem_filterMap.mp h
  have hleaves := hcalls event ((List.takeWhile_sublist _).mem hevent)
  have hown : ∀ record, record.logger ∈ analysisLoggers → ¬ AboutConfig record :=
    fun record hname => not_aboutConfig (List.mem_cons_of_mem _ hname)
  have hmain : ∀ record, record.logger = mainLogger → ¬ AboutConfig record :=
    fun record hname => not_aboutConfig (hname ▸ List.mem_cons_self ..)
  cases event with
  | call asRequest name arguments host elapsed =>
    have hcall := Tool.logs_call ⟨host, engines, elapsed⟩ hown hmain hleaves name
    cases asRequest with
    | false =>
      cases hanswer
      exact hcall arguments
    | true =>
      cases hanswer
      exact Tool.logs_handleRequest _ (fun members => hcall (.table members)) arguments
  | interrupt => cases hanswer
  | fail failure => cases hanswer

/-- Every line of a session is that of a record in a name in which no configuration is read. -/
theorem exists_record_of_mem_lines {directory : Option String} {line opening time : String}
    (h : line ∈ (startRecord directory).line opening :: linesOf engines events time) :
    ∃ (record : Record) (moment : String), line = record.line moment
      ∧ record.logger ∉ configLoggers := by
  have hmain : mainLogger ∉ configLoggers := by decide +kernel
  rcases List.mem_cons.mp h with hstart | hlater
  · exact ⟨startRecord directory, opening, hstart, hmain⟩
  · rcases List.mem_append.mp hlater with hcall | hstop
    · obtain ⟨record, hrecord, hline⟩ := List.mem_map.mp hcall
      obtain ⟨hrecord, hnotable⟩ := List.mem_filter.mp hrecord
      obtain ⟨called, hcalled, hrecord⟩ := List.mem_flatMap.mp hrecord
      have hother := logs_of_mem_answers hcalls hcalled record hrecord
      exact ⟨record, time, hline.symm, fun hname => hother ⟨hnotable, hname⟩⟩
    · split at hstop
      · exact ⟨stopRecord, time, List.mem_singleton.mp hstop, hmain⟩
      · cases hstop

end Answers

/-- The warnings about the configuration of a session, and what its log has of them: nothing.  So
    they are all in the log only if there are none. -/
theorem warnings_unlogged {entrance : Entrance} {files : LogFiles} {project : Option String}
    {serving : Serving} {directory : Option String}
    (hstart : start entrance files project = .ok serving)
    (hsettings : settingsOf entrance.host.disk project = .ok directory) {events : List Event}
    (hcalls : ∀ event ∈ events, event.LeavesConfig) (time : String) :
    ∃ lines, lines = (startRecord directory).line entrance.time
        :: linesOf serving.engines events time
      ∧ (serve serving time events).2.2
        = journal files entrance.host.disk.workingDirectory directory lines
      ∧ (∀ warning ∈ (loaded entrance.host.disk directory).records, AboutConfig warning
        ∧ ∀ moment, warning.line moment ∉ lines)
      ∧ ((∀ warning ∈ (loaded entrance.host.disk directory).records,
          ∃ moment, warning.line moment ∈ lines)
        ↔ (loaded entrance.host.disk directory).records = []) := by
  obtain ⟨opened, hopened, -, hbook⟩ := opened_of_start hstart
  obtain rfl : opened = directory := Except.ok.inj (hopened.symm.trans hsettings)
  have hserve := serve_eq hbook events time
  have hnone : ∀ warning ∈ (loaded entrance.host.disk opened).records, AboutConfig warning
      ∧ ∀ moment, warning.line moment ∉ (startRecord opened).line entrance.time
        :: linesOf serving.engines events time := by
    intro warning hwarning
    have habout := logs_loaded entrance.host.disk opened warning hwarning
    refine ⟨habout, fun moment hline => ?_⟩
    -- The line would be that of another record as well, and so tell two loggers.
    obtain ⟨record, other, heq, hname⟩ := exists_record_of_mem_lines hcalls hline
    exact hname (logger_eq_of_line_eq heq ▸ habout.2)
  refine ⟨_, rfl, congrArg (fun served => served.2.2) hserve, hnone, ?_, ?_⟩
  · intro hall
    rw [List.eq_nil_iff_forall_not_mem]
    intro warning hwarning
    obtain ⟨moment, hline⟩ := hall warning hwarning
    exact (hnone warning hwarning).2 moment hline
  · intro hempty warning hwarning
    rw [hempty] at hwarning
    cases hwarning

/-- A project in the root whose configuration has a command that is no text. -/
def strayDisk : Disk where
  kind path := .ok (if path = "/.code-analyzer" then .directory else .regular)
  bytes _ := .ok ("[engines.eslint]\ncommand = 1\n".toList.map fun c => c.toNat.toUInt8)
  executable _ := false
  workingDirectory := "/"

/-- The surroundings of a session on this project. -/
def strayEntrance : Entrance := { brokenEntrance with host := { brokenHost with disk := strayDisk } }

theorem start_strayEntrance : ∃ serving, start strayEntrance [] none = .ok serving
    ∧ settingsOf strayDisk none = .ok (some "/.code-analyzer") := by
  obtain ⟨serving, hstart⟩ : ∃ serving, start strayEntrance [] none = .ok serving :=
    exists_eq_ok_of_isOk (by decide +kernel)
  obtain ⟨directory, hsettings, -, -⟩ := opened_of_start hstart
  have hfound : (settingsOf strayDisk none).toOption = some (some "/.code-analyzer") := by
    decide +kernel
  obtain rfl : directory = some "/.code-analyzer" :=
    Option.some.inj ((congrArg Except.toOption hsettings).symm.trans hfound)
  exact ⟨serving, hstart, hsettings⟩

/-- The message about the command. -/
def strayMessage : String := Rejection.badCommand.message "eslint"

theorem messages_strayDisk :
    (loaded strayDisk (some "/.code-analyzer")).records.map Record.message = [strayMessage] := by
  decide +kernel

/-- An analysis and an interrupt on this project: the command is warned about, and no line of the
    log says so. -/
theorem warnings_unlogged_strayEntrance :
    ∃ serving lines warning, start strayEntrance [] none = .ok serving
      ∧ settingsOf strayDisk none = .ok (some "/.code-analyzer")
      ∧ (∀ event ∈ interruptedEvents, event.LeavesConfig)
      ∧ (serve serving "T" interruptedEvents).2.2 = journal [] "/" (some "/.code-analyzer") lines
      ∧ warning ∈ (loaded strayDisk (some "/.code-analyzer")).records
      ∧ warning.message = strayMessage
      ∧ ∀ moment, warning.line moment ∉ lines := by
  obtain ⟨serving, hstart, hsettings⟩ := start_strayEntrance
  have hcalls : ∀ event ∈ interruptedEvents, event.LeavesConfig := by
    intro event hevent
    simp only [interruptedEvents, List.mem_cons, List.not_mem_nil, or_false] at hevent
    rcases hevent with rfl | rfl | rfl
    · exact fun request => Traced.logs_fail _
    · trivial
    · exact fun request => Traced.logs_fail _
  obtain ⟨lines, -, hjournal, hnone, -⟩ := warnings_unlogged hstart hsettings hcalls "T"
  obtain ⟨warning, hwarning, hmessage⟩ : ∃ warning,
      warning ∈ (loaded strayDisk (some "/.code-analyzer")).records
        ∧ warning.message = strayMessage :=
    List.mem_map.mp (messages_strayDisk ▸ List.mem_singleton_self _)
  exact ⟨serving, lines, warning, hstart, hsettings, hcalls, hjournal, hwarning, hmessage,
    (hnone warning hwarning).2⟩

/-- The log of a session that ends at once has its start and nothing else, though the command was
    warned about. -/
theorem warning_missing_strayEntrance :
    ∃ serving, start strayEntrance [] none = .ok serving
      ∧ (loaded strayDisk (some "/.code-analyzer")).records.map Record.message = [strayMessage]
      ∧ (serve serving "T" []).2.2.files
        = [("/.code-analyzer/code-analyzer.log",
          ({} : LogFile).append ((startRecord (some "/.code-analyzer")).line "T"))] := by
  obtain ⟨serving, hstart, hsettings⟩ := start_strayEntrance
  obtain ⟨directory, hdirectory, -, hbook⟩ := opened_of_start hstart
  obtain rfl : directory = some "/.code-analyzer" :=
    Except.ok.inj (hdirectory.symm.trans hsettings)
  have hlog : (journal [] "/" (some "/.code-analyzer")
      [(startRecord (some "/.code-analyzer")).line "T"]).files
      = [("/.code-analyzer/code-analyzer.log",
        ({} : LogFile).append ((startRecord (some "/.code-analyzer")).line "T"))] := by
    decide +kernel
  have hnone : linesOf serving.engines [] "T" = [] := rfl
  refine ⟨serving, hstart, messages_strayDisk, ?_⟩
  rw [serve_eq hbook [] "T", hnone, List.append_nil]
  exact hlog

end Session

end LintBroker
