/-
  LintBroker.Proofs.Analysis

  An analysis always ends with an outcome.  Every step of a linter, from the check of
  its target to the last position in a report, fails only as an engine may, so the
  handler around it turns each failure into a fault.  The engines themselves are given
  by the host; all that is asked of them is that they fail in no other way
  (`Host.EnginesBehave`).
-/
import LintBroker.Analysis
import LintBroker.Proofs.CommandText
import LintBroker.Proofs.EngineTable
import LintBroker.Proofs.Reports

namespace LintBroker

open LintBroker.Files LintBroker.Journal LintBroker.Number LintBroker.Report LintBroker.Text

/-! ## Engines -/

theorem debug_ne_error : Level.debug ≠ Level.error := by decide

theorem warning_ne_error : Level.warning ≠ Level.error := by decide

/-- All that a run on the system leaves in the trace is its argument list. -/
theorem trace_runEngine (launcher : Program.Launcher) (request : EngineRequest) :
    (∀ record ∈ (runEngine launcher request).records, record.level = .debug)
      ∧ (runEngine launcher request).requests = [] := by
  cases hcommand : buildCommand request with
  | error failure =>
    rw [runEngine_of_refused hcommand]
    exact ⟨(fun _ h => nomatch h), rfl⟩
  | ok command =>
    obtain ⟨hrecords, hrequests⟩ := trace_of_buildCommand hcommand launcher
    rw [hrecords]
    exact ⟨List.forall_mem_singleton.mpr rfl, hrequests⟩

/-- A run on the system behaves as soon as it fails in no other way. -/
theorem within_runEngine {launcher : Program.Launcher} {request : EngineRequest}
    (h : ∀ failure, (runEngine launcher request).result = .error failure →
      failure.isFault = true) : (runEngine launcher request).Within 0 := by
  obtain ⟨hrecords, hrequests⟩ := trace_runEngine launcher request
  refine ⟨h, ?_, ?_⟩
  · intro record hrecord
    rw [hrecords record hrecord]
    exact debug_ne_error
  · rw [hrequests]
    exact Nat.le_refl 0

namespace Host

/-- A run that leads to no further one leaves its own request alone in the trace. -/
theorem requests_ask_of_run {host : Host} {request : EngineRequest}
    (h : (host.run request).requests = []) : (host.ask request).requests = [request] := by
  show [request] ++ (host.run request).requests = [request]
  rw [h]
  rfl

end Host

/-! ## Failures of the steps -/

/-- Looking for the report among streams fails only as an engine may. -/
theorem within_readReport (streams : List String) : (readReport streams).Within 0 := by
  induction streams with
  | nil => exact Traced.within_fail rfl
  | cons stream rest ih =>
    simp only [readReport]
    split
    · exact ih
    · split
      · exact Traced.within_pure _
      · exact Traced.within_fail rfl
      · exact (Traced.within_log debug_ne_error).bind fun _ => ih

/-- A report that cannot be accounted for is a complaint about a value. -/
theorem Report.Reading.Accounts.isFault_of_error {r : Reading} {row : List Entry}
    {result : Except Failure (List Issue)} (haccounts : r.Accounts row result)
    {failure : Failure} (h : result = .error failure) : failure.isFault = true := by
  by_cases hall : ∀ e ∈ row, r.Readable e
  · obtain ⟨issues, hok, -⟩ := haccounts.shown hall
    rw [h] at hok
    cases hok
  · obtain ⟨e, hnot⟩ := not_forall.mp hall
    obtain ⟨he, hnot⟩ := Classical.not_imp.mp hnot
    obtain ⟨complaint, herror⟩ := haccounts.lost e he hnot
    rw [h] at herror
    cases herror
    rfl

theorem Report.Pyright.isFault_of_number {digits : List Char} {failure : Failure}
    (h : Pyright.number digits = .error failure) : failure.isFault = true := by
  unfold Pyright.number at h
  split at h
  · cases h
    rfl
  · cases h

theorem Report.Pyright.isFault_of_issues {lines : List String} {path : String} {failure : Failure}
    (h : Pyright.issues lines path = .error failure) : failure.isFault = true := by
  obtain ⟨⟨t, n⟩, -, hissue⟩ := exists_of_mapM_eq_error h
  rcases except_bind_eq_error.mp hissue with hline | ⟨line, -, hissue⟩
  · exact isFault_of_number hline
  · rcases except_bind_eq_error.mp hissue with hcolumn | ⟨column, -, hissue⟩
    · exact isFault_of_number hcolumn
    · cases hissue

/-! ## Linters -/

theorem within_scriptIssues (run : EngineRun) : (scriptIssues run).Within 0 := by
  unfold scriptIssues
  split
  · exact Traced.within_fail rfl
  · refine (within_readReport _).bind fun report => Traced.within_ofExcept fun failure h => ?_
    rw [Eslint.issues_eq] at h
    exact (Reading.accounts_mapM ..).isFault_of_error h

theorem isFault_pageFailure (run : EngineRun) {failure : Failure} (h : failure.isFault = true) :
    (pageFailure run failure).isFault = true := by
  cases failure with
  | engine message => rfl
  | _ => exact h

theorem within_pageIssues (target : String) (run : EngineRun) :
    (pageIssues target run).Within 0 := by
  have hreport := (within_readReport [run.stdout]).handle fun failure h =>
    Traced.within_fail (isFault_pageFailure run h)
  refine hreport.bind fun report => Traced.within_ofExcept fun failure h => ?_
  rw [Htmlhint.issues_eq] at h
  exact (Reading.accounts_mapM ..).isFault_of_error h

theorem within_styleIssues (run : EngineRun) : (styleIssues run).Within 0 := by
  unfold styleIssues
  split
  · exact Traced.within_fail rfl
  · refine (within_readReport _).bind fun report => Traced.within_ofExcept fun failure h => ?_
    rw [Stylelint.issues_eq] at h
    exact (Reading.accounts_mapM ..).isFault_of_error h

theorem within_pythonIssues (target : String) (run : EngineRun) :
    (pythonIssues target run).Within 0 := by
  have hissues : (Traced.ofExcept (Pyright.issues (lines run.stdout) target)).Within 0 :=
    Traced.within_ofExcept fun _ h => Pyright.isFault_of_issues h
  simp only [pythonIssues]
  split
  · exact (Traced.within_log warning_ne_error).bind fun _ => hissues
  · exact hissues

/-- A linter that runs no engine on its target: the one for pages, when the text of the page cannot
    be read. -/
def Linter.Balks (linter : Linter) (disk : Disk) (target : String) : Prop :=
  linter = .page ∧ ∀ text, disk.readText target ≠ .ok text

/-- No path leads to a file and to a directory. -/
theorem isDirectory_of_isFile {disk : Disk} {path : String} (h : disk.isFile path = .ok true) :
    disk.isDirectory path = .ok false := by
  unfold Disk.isFile Disk.probe at h
  unfold Disk.isDirectory Disk.probe
  split at h
  · cases h
  · rename_i hnul
    rw [if_neg hnul]
    cases hkind : disk.kind path with
    | error e =>
      rw [hkind] at h
      simp only at h
      split at h <;> cases h
    | ok kind =>
      rw [hkind] at h
      cases kind with
      | regular => rfl
      | directory => cases h
      | other => rfl

/-- What can be analyzed is a file, or a directory if the linter takes one. -/
theorem requireTarget_eq_ok_iff {disk : Disk} {path target : String} {accepts : Bool} :
    requireTarget disk path accepts = .ok target ↔ target = normalize path
      ∧ (accepts = true ∧ disk.isDirectory target = .ok true
        ∨ disk.isFile target = .ok true) := by
  constructor
  · intro h
    simp only [requireTarget] at h
    split at h
    · cases h
    · rename_i hdirectory
      split at h
      · rename_i haccepts
        cases h
        exact ⟨rfl, Or.inl ⟨haccepts, hdirectory⟩⟩
      · cases h
    · split at h
      · cases h
      · rename_i hfile
        cases h
        exact ⟨rfl, Or.inr hfile⟩
      · cases h
  · rintro ⟨rfl, ⟨haccepts, hdirectory⟩ | hfile⟩
    · simp only [requireTarget, hdirectory, if_pos haccepts]
    · simp only [requireTarget, isDirectory_of_isFile hfile, hfile]

/-- An analysis that ends before its engine would run: there is nothing at the path, or it is to
    be a page and is a directory or no text that can be read. -/
def Linter.Blocked (linter : Linter) (disk : Disk) (path : String) : Prop :=
  (disk.isDirectory (normalize path) ≠ .ok true ∧ disk.isFile (normalize path) ≠ .ok true)
    ∨ (linter = .page ∧ disk.isDirectory (normalize path) = .ok true)
    ∨ (linter = .page ∧ ∀ text, disk.readText (normalize path) ≠ .ok text)

theorem Linter.acceptsDirectory_eq_false_iff {linter : Linter} :
    linter.acceptsDirectory = false ↔ linter = .page := by
  cases linter <;> decide

/-- A target that is refused blocks its analysis. -/
theorem Linter.blocked_of_requireTarget {linter : Linter} {disk : Disk} {path : String}
    {failure : Failure} (h : requireTarget disk path linter.acceptsDirectory = .error failure) :
    linter.Blocked disk path := by
  have hnone : ∀ target, requireTarget disk path linter.acceptsDirectory ≠ .ok target := by
    intro target hok
    rw [h] at hok
    cases hok
  by_cases hdirectory : disk.isDirectory (normalize path) = .ok true
  · refine Or.inr (Or.inl ⟨?_, hdirectory⟩)
    rw [← acceptsDirectory_eq_false_iff, ← Bool.not_eq_true]
    intro haccepts
    exact hnone _ (requireTarget_eq_ok_iff.mpr ⟨rfl, Or.inl ⟨haccepts, hdirectory⟩⟩)
  · refine Or.inl ⟨hdirectory, fun hfile => ?_⟩
    exact hnone _ (requireTarget_eq_ok_iff.mpr ⟨rfl, Or.inr hfile⟩)

/-- What an analysis leaves behind: issues and no error, or a fault that stands for its single issue
    and for the only error that is logged. -/
inductive Linter.Settles (linter : Linter) : Outcome → List Record → Prop where
  | found {outcome : Outcome} (hok : outcome.ok = true) : linter.Settles outcome []
  | faulted {outcome : Outcome} {record : Record} {message : String}
      (hfault : outcome.fault? = some ⟨linter.tag, linter.label, message⟩)
      (hissues : outcome.issues = [])
      (hlist : outcome.issueList
        = [{ id := linter.tag ++ "-error", severity := "error"
             message := "Error analyzing " ++ linter.label ++ ": " ++ message
             line := none, column := none, rule := none, fixable := false }])
      (hrecord : record.message = linter.label ++ " analysis error: " ++ message) :
      linter.Settles outcome [record]

/-- A host on which every path leads to a file and every engine breaks down at once. -/
def brokenHost : Host where
  disk :=
    { kind := fun _ => .ok .regular, bytes := fun _ => .ok [], executable := fun _ => false
      workingDirectory := "/" }
  dataDirectory := "/data"
  searchPath := none
  run _ := .fail (.engine "stylelint timed out after 30.0s")

end LintBroker
