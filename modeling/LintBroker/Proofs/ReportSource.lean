/-
  LintBroker.Proofs.ReportSource

  Which report is found among the streams of an engine.  The answer is meant to be that of
  `firstReport`: the value of the first stream that decodes, and the failure of the engine
  when none does.  The search gives it exactly if it does not meet a stream that is given up
  for a number with too many digits (`GivesUp`): such a stream ends it, whatever follows.
  `readReport_settles` says both, with the digits that stand in the stream, and what they
  mean for style sheets, whose report may be on either stream.
-/
import LintBroker.Analysis
import LintBroker.Json.Printer
import LintBroker.Proofs.JsonDigits
import LintBroker.Proofs.Trace

namespace LintBroker.Report

open LintBroker.Journal LintBroker.Json LintBroker.Number LintBroker.Text

/-! ## Streams -/

/-- The value of a stream, when its text decodes without the blanks around it. -/
def decoded? (stream : String) : Option Datum := (Json.read (strip stream)).toOption

/-- The value of the first stream that decodes; the engine failed when none does. -/
def firstReport (streams : List String) : Except Failure Datum :=
  match streams.findSome? decoded? with
  | some report => .ok report
  | none => .error (.engine "engine produced no JSON report")

/-- A stream that is no JSON text.  One of nothing but blanks is none, either. -/
def Passed (stream : String) : Prop := Json.read (strip stream) = .error .malformed

/-- A stream that is not read to its end, because an integer in it has so many digits. -/
def GivenUp (count : Nat) (stream : String) : Prop :=
  Json.read (strip stream) = .error (.tooManyDigits count)

/-- The first stream that is not passed over is given up. -/
def GivesUp (count : Nat) (streams : List String) : Prop :=
  ∃ before stream after, streams = before ++ stream :: after
    ∧ (∀ other ∈ before, Passed other) ∧ GivenUp count stream

variable {count : Nat} {stream : String} {rest streams : List String} {report : Datum}

theorem Passed.decoded?_eq_none (h : Passed stream) : decoded? stream = none := by
  rw [decoded?, h]
  rfl

theorem GivenUp.decoded?_eq_none (h : GivenUp count stream) : decoded? stream = none := by
  rw [decoded?, h]
  rfl

theorem decoded?_eq_some_iff :
    decoded? stream = some report ↔ Json.read (strip stream) = .ok report := by
  unfold decoded?
  cases Json.read (strip stream) with
  | error fault => exact iff_of_false (fun h => nomatch h) fun h => nomatch h
  | ok other => exact ⟨fun h => by cases h; rfl, fun h => by cases h; rfl⟩

theorem firstReport_cons_of_eq_none (h : decoded? stream = none) :
    firstReport (stream :: rest) = firstReport rest := by
  unfold firstReport
  rw [List.findSome?_cons, h]

theorem firstReport_cons_of_eq_some (h : decoded? stream = some report) :
    firstReport (stream :: rest) = .ok report := by
  unfold firstReport
  rw [List.findSome?_cons, h]

theorem GivesUp.cons (hstream : Passed stream) (h : GivesUp count rest) :
    GivesUp count (stream :: rest) := by
  obtain ⟨before, other, after, rfl, hbefore, hother⟩ := h
  exact ⟨stream :: before, other, after, rfl, List.forall_mem_cons.mpr ⟨hstream, hbefore⟩, hother⟩

/-- The streams with more digits in a row than the limit are the only ones that are given up. -/
theorem GivenUp.longRow (h : GivenUp count stream) : LongRow count stream.toList := by
  have hrow := longRow_of_read h
  have hstrip : stripChars stream.toList <:+: stream.toList := by
    -- What the second pass keeps of the text behind the first blanks is a front of it.
    have hfront : stripChars stream.toList <+: stream.toList.dropWhile isBlank := by
      rw [stripChars, ← List.reverse_suffix, List.reverse_reverse]
      exact List.dropWhile_suffix _
    exact hfront.isInfix.trans (List.dropWhile_suffix _).isInfix
  rw [strip, String.toList_ofList] at hrow
  exact hrow.mono hstrip

theorem GivesUp.exists_longRow (h : GivesUp count streams) :
    ∃ stream ∈ streams, LongRow count stream.toList := by
  obtain ⟨before, stream, after, rfl, -, hstream⟩ := h
  exact ⟨stream, List.mem_append_right _ (List.mem_cons_self ..), hstream.longRow⟩

/-- Streams within the limit cannot hold so many digits. -/
theorem not_givesUp_of_length_le (h : ∀ stream ∈ streams, stream.toList.length ≤ digitLimit) :
    ¬ GivesUp count streams := by
  intro hgives
  obtain ⟨stream, hmem, hlimit, row, hin, hlength, -⟩ := hgives.exists_longRow
  exact absurd (hlength ▸ hin.length_le) (Nat.not_le.mpr (Nat.lt_of_le_of_lt (h stream hmem) hlimit))

/-! ## The search -/

theorem result_readReport_cons_of_passed (h : Passed stream) :
    (readReport (stream :: rest)).result = (readReport rest).result := by
  simp only [readReport]
  split
  · rfl
  · rw [h]
    rfl

/-- A stream that decodes or is given up is not blank. -/
theorem strip_ne_empty (h : ¬ Passed stream) : strip stream ≠ "" := by
  intro hempty
  refine h ?_
  rw [Passed, hempty]
  rfl

theorem readReport_cons_of_decoded (h : Json.read (strip stream) = .ok report) :
    readReport (stream :: rest) = pure report := by
  have hsome : strip stream ≠ "" := strip_ne_empty fun hpassed => by
    cases hpassed.symm.trans h
  simp only [readReport, if_neg hsome, h]

theorem readReport_cons_of_givenUp (h : GivenUp count stream) :
    readReport (stream :: rest) = .fail (.invalidValue (digitLimitMessage count)) := by
  have hsome : strip stream ≠ "" := strip_ne_empty fun hpassed => by
    cases hpassed.symm.trans h
  rw [GivenUp] at h
  simp only [readReport, if_neg hsome, h]

/-- The streams in front that are passed over have no part in the result. -/
theorem result_readReport_append {before : List String} (h : ∀ other ∈ before, Passed other)
    (after : List String) :
    (readReport (before ++ after)).result = (readReport after).result := by
  induction before with
  | nil => rfl
  | cons stream before ih =>
    obtain ⟨hstream, hbefore⟩ := List.forall_mem_cons.mp h
    rw [List.cons_append, result_readReport_cons_of_passed hstream, ih hbefore]

theorem result_readReport_of_givesUp (h : GivesUp count streams) :
    (readReport streams).result = .error (.invalidValue (digitLimitMessage count)) := by
  obtain ⟨before, stream, after, rfl, hbefore, hstream⟩ := h
  rw [result_readReport_append hbefore, readReport_cons_of_givenUp hstream]
  rfl

/-- By induction on the streams: each is passed over or settles the result. -/
theorem result_readReport (h : ∀ count, ¬ GivesUp count streams) :
    (readReport streams).result = firstReport streams := by
  induction streams with
  | nil => rfl
  | cons stream rest ih =>
    cases hread : Json.read (strip stream) with
    | ok report =>
      rw [readReport_cons_of_decoded hread,
        firstReport_cons_of_eq_some (decoded?_eq_some_iff.mpr hread)]
      rfl
    | error fault =>
      cases fault with
      | malformed =>
        have hpassed : Passed stream := hread
        rw [result_readReport_cons_of_passed hpassed,
          firstReport_cons_of_eq_none hpassed.decoded?_eq_none]
        exact ih fun count hgives => h count (hgives.cons hpassed)
      | tooManyDigits count =>
        exact absurd ⟨[], stream, rest, rfl, List.forall_mem_nil _, hread⟩ (h count)

/-- The search gives the first report, or fails without one, exactly if it does not give up. -/
theorem result_readReport_iff :
    (readReport streams).result = firstReport streams ↔ ∀ count, ¬ GivesUp count streams := by
  refine ⟨fun h count hgives => ?_, result_readReport⟩
  rw [result_readReport_of_givesUp hgives] at h
  unfold firstReport at h
  split at h
  · cases h
  · cases h

/-! ## Style sheets -/

/-- After a run that Stylelint did not give up, the issues are those of the report that is found
    on its two streams. -/
theorem result_lint_style {host : Host} {engine : Engine} {target : String} {fix : Bool}
    {run : EngineRun}
    (hrun : (host.run { engine, file := target, extraArgs := fixArgs fix }).result = .ok run)
    (hexit : run.returnCode ∉ stylelintFatalExits) :
    (Linter.style.lint host engine target fix).result
      = (readReport [run.stdout, run.stderr]).result.bind Stylelint.issues := by
  have hask : (host.ask { engine, file := target, extraArgs := fixArgs fix }).result = .ok run :=
    hrun
  show (host.ask { engine, file := target, extraArgs := fixArgs fix } >>= styleIssues).result = _
  rw [Traced.bind_of_ok hask]
  simp only [styleIssues]
  rw [if_neg (by simpa using hexit)]
  cases hreport : (readReport [run.stdout, run.stderr]).result with
  | error failure =>
    rw [Traced.bind_of_error hreport]
    rfl
  | ok report =>
    rw [Traced.bind_of_ok hreport]
    rfl

/-! ## The search as a whole -/

/-- The search gives the value of the first stream that decodes, and the failure of the engine
    when there is none, exactly if no stream before it is given up.  Such a stream is what it
    fails for otherwise, and so many digits stand in it in a row.  When the streams are the output
    and the error output of a linter for style sheets and no stream is given up, an output that
    does not decode does not hide the report on the error output. -/
theorem readReport_settles (streams : List String) :
    ((readReport streams).result = firstReport streams ↔ ∀ count, ¬ GivesUp count streams)
      ∧ (∀ count, GivesUp count streams →
        (readReport streams).result = .error (.invalidValue (digitLimitMessage count))
          ∧ ∃ stream ∈ streams, LongRow count stream.toList)
      ∧ ∀ (host : Host) (engine : Engine) (target : String) (fix : Bool) (run : EngineRun)
          (report : Datum),
        (host.run { engine, file := target, extraArgs := fixArgs fix }).result = .ok run →
        run.returnCode ∉ stylelintFatalExits → streams = [run.stdout, run.stderr] →
        decoded? run.stdout = none → decoded? run.stderr = some report →
        (∀ count, ¬ GivesUp count streams) →
        (Linter.style.lint host engine target fix).result = Stylelint.issues report := by
  refine ⟨result_readReport_iff, fun count h => ⟨result_readReport_of_givesUp h, h.exists_longRow⟩,
    fun host engine target fix run report hrun hexit hstreams hstdout hstderr hkept => ?_⟩
  rw [result_lint_style hrun hexit, ← hstreams, result_readReport hkept, hstreams,
    firstReport_cons_of_eq_none hstdout, firstReport_cons_of_eq_some hstderr]
  rfl

/-- A host on which every engine that is run writes to both streams. -/
def streamsHost (stdout stderr : String) : Host where
  disk :=
    { kind := fun _ => .ok .regular, bytes := fun _ => .ok [], executable := fun _ => false
      workingDirectory := "/" }
  dataDirectory := "/data"
  searchPath := none
  run _ := pure { returnCode := 2, stdout, stderr }

/-- A report with one warning. -/
def warningReport : Datum :=
  .list [.table [("source", .text "a.css"), ("warnings", .list [.table [("line", .int 3)]])]]

/-- The text of the report. -/
def warningText : String := inlineText warningReport

theorem decoded?_warningText : decoded? warningText = some warningReport := by
  have hstrip : strip warningText = warningText := by decide +kernel
  refine decoded?_eq_some_iff.mpr ?_
  rw [hstrip, warningText, inlineText, Json.read, String.toList_ofList]
  rfl

theorem readReport_settles_warningReport :
    (∀ count, ¬ GivesUp count ["npm notice\n", warningText])
      ∧ (readReport ["npm notice\n", warningText]).result = .ok warningReport
      ∧ (Linter.style.lint (streamsHost "npm notice\n" warningText) Engine.stylelint "a.css"
          false).result = Stylelint.issues warningReport := by
  have hnotice : decoded? "npm notice\n" = none := by rfl
  have hlengths : ∀ stream ∈ ["npm notice\n", warningText],
      stream.toList.length ≤ digitLimit := by
    decide +kernel
  have hkept : ∀ count, ¬ GivesUp count ["npm notice\n", warningText] :=
    fun count => not_givesUp_of_length_le hlengths
  obtain ⟨hfirst, -, hstyle⟩ := readReport_settles ["npm notice\n", warningText]
  refine ⟨hkept, ?_, ?_⟩
  · rw [hfirst.mpr hkept, firstReport_cons_of_eq_none hnotice,
      firstReport_cons_of_eq_some decoded?_warningText]
  · exact hstyle _ _ _ _ { returnCode := 2, stdout := "npm notice\n", stderr := warningText } _ rfl
      (by decide) rfl hnotice decoded?_warningText hkept

/-- A text of nothing but digits has no blanks around it. -/
theorem strip_longNumber (count : Nat) : strip (longNumber count) = longNumber count := by
  have hdrop : (List.replicate count '1').dropWhile isBlank = List.replicate count '1' := by
    cases count with
    | zero => rfl
    | succ more => rfl
  rw [strip, longNumber, String.toList_ofList, stripChars, hdrop, List.reverse_replicate, hdrop,
    List.reverse_replicate]

/-- Every such text beyond the limit ends the search in front of a report. -/
theorem givenUp_longNumber {count : Nat} (h : digitLimit < count) :
    GivenUp count (longNumber count) := by
  rw [GivenUp, strip_longNumber]
  exact read_longNumber h

/-- One digit more than the limit is enough to hide the report behind it. -/
theorem readReport_oneDigitMore :
    firstReport [longNumber 4301, warningText] = .ok warningReport
      ∧ (readReport [longNumber 4301, warningText]).result
        = .error (.invalidValue (digitLimitMessage 4301)) := by
  have hlong : GivenUp 4301 (longNumber 4301) := givenUp_longNumber (by decide)
  constructor
  · rw [firstReport_cons_of_eq_none hlong.decoded?_eq_none,
      firstReport_cons_of_eq_some decoded?_warningText]
  · rw [readReport_cons_of_givenUp hlong]
    rfl

end LintBroker.Report
