/-
  LintBroker.Proofs.Reports

  Reading the reports of the linters for scripts, style sheets and pages.  They differ
  in the names of a few members, in how they number their messages and in what they
  take a severity, a rule and a fix from; a `Reading` holds these choices, and a report
  is one row of entries that are read alike.  Every entry gives its own issue, in the
  order of the report, as long as no position in it is unreadable; one that is makes
  the whole report fail: `accounts_of_reports`.
-/
import LintBroker.Proofs.Fields
import LintBroker.Proofs.Trace
import LintBroker.Report.Eslint
import LintBroker.Report.Htmlhint
import LintBroker.Report.Stylelint

namespace LintBroker.Report

open LintBroker.Number LintBroker.Text

/-! ## Entries -/

/-- A message of a report, with the path and the ordinal in the id of its issue. -/
structure Entry where
  path : String
  message : Members
  ordinal : Nat

/-- The messages of a report in its order, those of each file numbered for themselves. -/
def entriesByFile (pathName listName : String) (report : Datum) : List Entry :=
  (tables report).flatMap fun file =>
    (tables (file.get listName)).zipIdx.map fun (message, n) =>
      ⟨textOr (file.get pathName) "", message, n⟩

/-- How the messages of a linter are read. -/
structure Reading where
  tag : String
  columnName : String
  textName : String
  severity : Members → String
  rule : Members → Option String
  fixable : Members → Bool

namespace Reading

/-- The issue of an entry. -/
def issue (r : Reading) (e : Entry) : Except Failure Issue := do
  let line ← optionalInt (e.message.get "line")
  let column ← optionalInt (e.message.get r.columnName)
  pure
    { id := issueId r.tag e.path e.ordinal
      severity := r.severity e.message
      message := textOr (e.message.get r.textName) ""
      line, column
      rule := r.rule e.message
      fixable := r.fixable e.message }

/-- The positions of an entry can be read. -/
def Readable (r : Reading) (e : Entry) : Prop :=
  ¬ Unreadable (e.message.get "line") ∧ ¬ Unreadable (e.message.get r.columnName)

/-- An issue shows an entry: its id, its positions where the message has them, and its other members
    or what stands for them. -/
structure Shows (r : Reading) (e : Entry) (i : Issue) : Prop where
  id : i.id = issueId r.tag e.path e.ordinal
  line : ShowsPosition (e.message.get "line") i.line
  column : ShowsPosition (e.message.get r.columnName) i.column
  severity : i.severity = r.severity e.message
  message : i.message = textOr (e.message.get r.textName) ""
  rule : i.rule = r.rule e.message
  fixable : i.fixable = r.fixable e.message

theorem shows_of_issue {r : Reading} {e : Entry} {i : Issue} (h : r.issue e = .ok i) :
    r.Shows e i := by
  unfold issue at h
  obtain ⟨line, hline, h⟩ := except_bind_eq_ok.mp h
  obtain ⟨column, hcolumn, h⟩ := except_bind_eq_ok.mp h
  cases h
  exact ⟨rfl, showsPosition_of_optionalInt hline, showsPosition_of_optionalInt hcolumn,
    rfl, rfl, rfl, rfl⟩

theorem issue_isOk_iff {r : Reading} {e : Entry} : (∃ i, r.issue e = .ok i) ↔ r.Readable e := by
  unfold Readable issue
  rw [← optionalInt_isOk_iff, ← optionalInt_isOk_iff]
  constructor
  · rintro ⟨i, h⟩
    obtain ⟨line, hline, h⟩ := except_bind_eq_ok.mp h
    obtain ⟨column, hcolumn, -⟩ := except_bind_eq_ok.mp h
    exact ⟨⟨line, hline⟩, ⟨column, hcolumn⟩⟩
  · rintro ⟨⟨line, hline⟩, ⟨column, hcolumn⟩⟩
    rw [hline, hcolumn]
    exact ⟨_, rfl⟩

theorem invalidValue_of_issue {r : Reading} {e : Entry} {failure : Failure}
    (h : r.issue e = .error failure) : ∃ complaint, failure = .invalidValue complaint := by
  unfold issue at h
  rcases except_bind_eq_error.mp h with hline | ⟨line, -, h⟩
  · exact invalidValue_of_optionalInt hline
  · rcases except_bind_eq_error.mp h with hcolumn | ⟨column, -, h⟩
    · exact invalidValue_of_optionalInt hcolumn
    · cases h

/-! ## Rows of entries -/

/-- A result accounts for a row of entries: if all of them can be read, there is exactly one issue
    for each, in their order; if one of them cannot, there are no issues at all. -/
structure Accounts (r : Reading) (row : List Entry) (result : Except Failure (List Issue)) :
    Prop where
  shown : (∀ e ∈ row, r.Readable e) → ∃ issues, result = .ok issues ∧
    List.Forall₂ r.Shows row issues
  lost : ∀ e ∈ row, ¬ r.Readable e → ∃ complaint, result = .error (.invalidValue complaint)

/-- Reading a row entry by entry accounts for it. -/
theorem accounts_mapM (r : Reading) (row : List Entry) : r.Accounts row (row.mapM r.issue) := by
  cases hrun : row.mapM r.issue with
  | error failure =>
    obtain ⟨e, he, hfail⟩ := exists_of_mapM_eq_error hrun
    obtain ⟨complaint, rfl⟩ := invalidValue_of_issue hfail
    refine ⟨fun hall => ?_, fun _ _ _ => ⟨complaint, rfl⟩⟩
    obtain ⟨i, hi⟩ := issue_isOk_iff.mpr (hall e he)
    rw [hfail] at hi
    cases hi
  | ok issues =>
    have hrow := forall₂_of_mapM_eq_ok hrun
    refine ⟨fun _ => ⟨issues, rfl, hrow.imp fun _ _ => shows_of_issue⟩, fun e he hnot => ?_⟩
    obtain ⟨i, -, hi⟩ := exists_of_mem_of_forall₂ hrow he
    exact absurd (issue_isOk_iff.mp ⟨i, hi⟩) hnot

end Reading

/-! ## The three reports -/

/-- How messages of a script linter are read. -/
def Eslint.reading : Reading where
  tag := Eslint.tag
  columnName := "column"
  textName := "message"
  severity message :=
    if (message.get "severity").equalsInt Eslint.errorLevel then "error" else "warning"
  rule message := optionalText (message.get "ruleId")
  fixable message := match message.get "fix" with
    | .null => false
    | _ => true

/-- How warnings of a style sheet linter are read. -/
def Stylelint.reading : Reading where
  tag := Stylelint.tag
  columnName := "column"
  textName := "text"
  severity warning := textOr (warning.get "severity") "warning"
  rule warning := optionalText (warning.get "rule")
  fixable _ := false

/-- How messages of a page linter are read. -/
def Htmlhint.reading : Reading where
  tag := Htmlhint.tag
  columnName := "col"
  textName := "message"
  severity message := if (message.get "type").text? = some "error" then "error" else "warning"
  rule := Htmlhint.ruleOf
  fixable _ := false

/-- The messages of a page report, all numbered in one row. -/
def Htmlhint.entries (report : Datum) (path : String) : List Entry :=
  (Htmlhint.messages report).zipIdx.map fun (message, n) => ⟨path, message, n⟩

theorem Eslint.issues_eq (report : Datum) :
    Eslint.issues report
      = (entriesByFile "filePath" "messages" report).mapM Eslint.reading.issue := by
  unfold entriesByFile
  rw [← map_flatten_mapM]
  simp only [List.mapM_map]
  rfl

theorem Stylelint.issues_eq (report : Datum) :
    Stylelint.issues report
      = (entriesByFile "source" "warnings" report).mapM Stylelint.reading.issue := by
  unfold entriesByFile
  rw [← map_flatten_mapM]
  simp only [List.mapM_map]
  rfl

theorem Htmlhint.issues_eq (report : Datum) (path : String) :
    Htmlhint.issues report path = (Htmlhint.entries report path).mapM Htmlhint.reading.issue := by
  unfold Htmlhint.entries
  rw [List.mapM_map]
  rfl

/-- Whatever value a report is, each of the three parsers accounts for all messages in it. -/
theorem accounts_of_reports (report : Datum) (path : String) :
    Eslint.reading.Accounts (entriesByFile "filePath" "messages" report) (Eslint.issues report)
      ∧ Stylelint.reading.Accounts (entriesByFile "source" "warnings" report)
        (Stylelint.issues report)
      ∧ Htmlhint.reading.Accounts (Htmlhint.entries report path)
        (Htmlhint.issues report path) := by
  rw [Eslint.issues_eq, Stylelint.issues_eq, Htmlhint.issues_eq]
  exact ⟨Reading.accounts_mapM _ _, Reading.accounts_mapM _ _, Reading.accounts_mapM _ _⟩

/-- A report on one file with a message whose line is a digit sign, and a plain one behind it. -/
def digitSignReport : Datum :=
  .list [.table [("filePath", .text "a.js"), ("messages", .list
    [.table [("line", .text "²"), ("message", .text "first")],
      .table [("line", .int 3), ("message", .text "second")]])]]

/-- One digit sign costs all issues of a report. -/
theorem Eslint.issues_digitSignReport :
    (entriesByFile "filePath" "messages" digitSignReport).length = 2
      ∧ ∀ issues, Eslint.issues digitSignReport ≠ .ok issues := by
  have hfail : Eslint.issues digitSignReport
      = .error (.invalidValue "invalid literal for int() with base 10: '²'") := by
    decide +kernel
  rw [hfail]
  exact ⟨rfl, fun _ h => by cases h⟩

end LintBroker.Report
