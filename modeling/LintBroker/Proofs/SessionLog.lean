/-
  LintBroker.Proofs.SessionLog

  What a session writes down.  It has one target, so its journal is told by the lines
  that were written so far (`journal`), and a record adds its line exactly if it is
  notable.  From this step follows the whole of a session: its start, the notable
  records of each call in their order, and its stop after an interrupt.
-/
import LintBroker.Proofs.Analysis
import LintBroker.Proofs.Journal
import LintBroker.Proofs.Session
import LintBroker.Proofs.Trace

namespace LintBroker.Session

open LintBroker.Files LintBroker.Journal

/-! ## One target -/

/-- The record is of a level that the journal of a session accepts. -/
def notable (record : Record) : Bool := Level.info.number ≤ record.level.number

/-- The lines of the notable ones among records that are made at one time. -/
def notableLines (records : List Record) (time : String) : List String :=
  (records.filter notable).map fun record => record.line time

/-- The journal of a session on the log files that were there, after lines in a row: they are in the
    log of the settings directory, or without one on the error stream, and nowhere else. -/
def journal (files : LogFiles) (workingDirectory : String) (directory : Option String)
    (lines : List String) : Book :=
  match directory with
  | none => { logger := ⟨.info, [.stream 0]⟩, files, streams := [lines] }
  | some directory =>
    let path := Logger.logPath workingDirectory directory
    { logger := ⟨.info, [.file path]⟩
      files := lines.foldl (fun files line => files.write path line) (files.touch path) }

section Journal

variable {files : LogFiles} {workingDirectory : String} {directory : Option String}
  {lines : List String} {record : Record} {time : String}

theorem notableLines_append (records others : List Record) (time : String) :
    notableLines (records ++ others) time
      = notableLines records time ++ notableLines others time := by
  unfold notableLines
  rw [List.filter_append, List.map_append]

theorem accepts_journal :
    (journal files workingDirectory directory lines).logger.accepts record.level
      = notable record := by
  have hlevel : (journal files workingDirectory directory lines).logger.level = .info := by
    cases directory <;> rfl
  -- A level that is set counts as it is, and the one of a session is above zero.
  have hinfo : Level.info ≠ .unset := by decide
  have hpositive : Level.info.number ≤ record.level.number → 0 < record.level.number :=
    Int.lt_of_lt_of_le (by decide)
  simp only [Logger.accepts, hlevel, if_neg hinfo, notable]
  rw [Bool.eq_iff_iff, Bool.and_eq_true, decide_eq_true_iff, decide_eq_true_iff]
  exact and_iff_right_of_imp hpositive

theorem notableLines_of_notable (h : notable record = true) :
    notableLines [record] time = [record.line time] := by
  unfold notableLines
  rw [List.filter_cons_of_pos h]
  rfl

/-- A notable record adds its line, and any other one nothing. -/
theorem write_journal :
    (journal files workingDirectory directory lines).write record time
      = journal files workingDirectory directory (lines ++ notableLines [record] time) := by
  unfold Book.write
  rw [accepts_journal]
  -- With a single target the loop over the targets is one write.
  cases hnotable : notable record with
  | false =>
    rw [if_neg fun h => Bool.false_ne_true h.1]
    simp [notableLines, hnotable]
  | true =>
    rw [notableLines_of_notable hnotable]
    cases directory with
    | none =>
      rw [if_pos ⟨rfl, List.cons_ne_nil _ _⟩]
      rfl
    | some directory =>
      rw [if_pos ⟨rfl, List.cons_ne_nil _ _⟩]
      simp only [journal, List.foldl_concat, List.foldl_cons, List.foldl_nil, Book.writeTo]

theorem writeAll_journal (records : List Record) :
    writeAll (journal files workingDirectory directory lines) records time
      = journal files workingDirectory directory (lines ++ notableLines records time) := by
  induction records generalizing lines with
  | nil => rw [show notableLines [] time = [] from rfl, List.append_nil]; rfl
  | cons record rest ih =>
    show writeAll ((journal ..).write record time) rest time = _
    rw [write_journal, ih, List.append_assoc, ← notableLines_append, List.singleton_append]

end Journal

/-! ## Opening -/

/-- The configuration of a settings directory, and the engines that come of it. -/
def loaded (disk : Disk) (directory : Option String) : Traced EngineTable :=
  Cli.projectConfig disk directory >>= loadEngines

section Opening

variable {entrance : Entrance} {files : LogFiles} {project : Option String} {serving : Serving}

theorem journal_of_setup {workingDirectory : String} {tryOpen : String → Except Failure Unit}
    {directory : Option String} {book : Book}
    (h : ({ files } : Book).setup workingDirectory tryOpen directory .info = (.ok (), book)) :
    book = journal files workingDirectory directory [] := by
  have hstart : ({ files } : Book).logger.targets = [] := rfl
  cases setUp_of_setup (Book.sound_run hstart []) h with
  | keeps hwanted => exact nomatch hwanted
  | addsStream hwanted => rfl
  | opens hpath hwanted hopen =>
    subst hpath
    rfl

/-- A session that is opened has its engines from the configuration of its settings directory, and
    has written down its start. -/
theorem opened_of_start (h : start entrance files project = .ok serving) :
    ∃ directory, settingsOf entrance.host.disk project = .ok directory
      ∧ (loaded entrance.host.disk directory).result = .ok serving.engines
      ∧ serving.book = journal files entrance.host.disk.workingDirectory directory
        [(startRecord directory).line entrance.time] := by
  obtain ⟨directory, hsettings, h⟩ := except_bind_eq_ok.mp h
  refine ⟨directory, hsettings, ?_⟩
  dsimp only at h
  split at h
  · cases h
  · rename_i engines hloaded
    cases hsetup : ({ files } : Book).setup entrance.host.disk.workingDirectory entrance.tryOpen
      directory .info with
    | mk result book =>
      simp only [hsetup] at h
      cases result with
      | error failure => cases h
      | ok _ =>
        cases h
        refine ⟨hloaded, ?_⟩
        rw [journal_of_setup hsetup, write_journal, List.nil_append, notableLines_of_notable rfl]

end Opening

/-! ## Serving -/

/-- What a session with these engines answers to an event, if it is a call. -/
def Event.answer? (engines : EngineTable) : Event → Option (Traced Tool.Reply)
  | .call true name arguments host elapsed =>
    some (Tool.handleRequest ⟨host, engines, elapsed⟩ none name arguments).1
  | .call false name arguments host elapsed =>
    some (Tool.call ⟨host, engines, elapsed⟩ name arguments)
  | _ => none

/-- The answers to the calls in front of the event that ends a session. -/
def answers (engines : EngineTable) (events : List Event) : List (Traced Tool.Reply) :=
  (events.takeWhile Event.isCall).filterMap (Event.answer? engines)

/-- How events end a session: by the first one that is not a call, or with the input. -/
def ending (events : List Event) : Ending :=
  match events.dropWhile Event.isCall with
  | .interrupt :: _ => .interrupted
  | .fail failure :: _ => .failed failure
  | _ => .inputEnded

/-- The lines that a session adds to its log behind its start: those of each call in turn, and the
    stop after an interrupt. -/
def linesOf (engines : EngineTable) (events : List Event) (time : String) : List String :=
  notableLines ((answers engines events).flatMap Traced.records) time
    ++ if ending events = .interrupted then [stopRecord.line time] else []

section Serving

variable {engines : EngineTable}

/-- A call is answered, and its notable records are the first lines. -/
theorem linesOf_call {event : Event} {called : Traced Tool.Reply} (hcall : event.isCall = true)
    (hanswer : event.answer? engines = some called) (rest : List Event) (time : String) :
    answers engines (event :: rest) = called :: answers engines rest
      ∧ ending (event :: rest) = ending rest
      ∧ linesOf engines (event :: rest) time
        = notableLines called.records time ++ linesOf engines rest time := by
  have hanswers : answers engines (event :: rest) = called :: answers engines rest := by
    unfold answers
    rw [List.takeWhile_cons_of_pos hcall, List.filterMap_cons_some hanswer]
  have hending : ending (event :: rest) = ending rest := by
    unfold ending
    rw [List.dropWhile_cons_of_pos hcall]
  refine ⟨hanswers, hending, ?_⟩
  unfold linesOf
  rw [hanswers, hending, List.flatMap_cons, notableLines_append, List.append_assoc]

/-- All of a session that is open, whatever happens to it: the answers, the end, and the journal. -/
theorem serve_eq {files : LogFiles} {workingDirectory : String} {directory : Option String}
    {lines : List String} {serving : Serving}
    (hbook : serving.book = journal files workingDirectory directory lines) (events : List Event)
    (time : String) :
    serve serving time events = (answers serving.engines events, ending events,
      journal files workingDirectory directory
        (lines ++ linesOf serving.engines events time)) := by
  -- The lines so far are carried along: what a call writes is in front of all that follows it.
  induction events generalizing serving lines with
  | nil =>
    have hnone : linesOf serving.engines [] time = [] := rfl
    rw [hnone, List.append_nil, ← hbook]
    rfl
  | cons event rest ih =>
    cases event with
    | interrupt =>
      have hstop : linesOf serving.engines (.interrupt :: rest) time
          = notableLines [stopRecord] time := rfl
      rw [hstop, ← write_journal, ← hbook]
      rfl
    | fail failure =>
      have hnone : linesOf serving.engines (.fail failure :: rest) time = [] := rfl
      rw [hnone, List.append_nil, ← hbook]
      rfl
    | call asRequest name arguments host elapsed =>
      have hanswer : (Event.call asRequest name arguments host elapsed).answer? serving.engines
          = some (answer serving time asRequest name arguments
            ⟨host, serving.engines, elapsed⟩).1 := by
        rw [answer_fst]
        cases asRequest <;> rfl
      obtain ⟨hanswers, hending, hlines⟩ := linesOf_call rfl hanswer rest time
      have hnext : (answer serving time asRequest name arguments
            ⟨host, serving.engines, elapsed⟩).2.book
          = journal files workingDirectory directory (lines ++ notableLines
            (answer serving time asRequest name arguments
              ⟨host, serving.engines, elapsed⟩).1.records time) := by
        rw [← writeAll_journal, ← hbook]
        rfl
      have hrest := ih hnext
      rw [(answer_snd ..).1, List.append_assoc] at hrest
      rw [hanswers, hending, hlines]
      simp only [serve, hrest]

end Serving

/-! ## Whole sessions -/

/-- The surroundings of a session on the host on which every engine breaks down. -/
def brokenEntrance : Entrance := ⟨brokenHost, fun _ => .ok (), "T"⟩

/-- An analysis and an interrupt, and a call that comes too late. -/
def interruptedEvents : List Event :=
  [.call true "analyze_code" (.table [("path", .text "a.css")]) brokenHost .nan, .interrupt,
    .call false "fix_issues" .null brokenHost .nan]

end LintBroker.Session
