/-
  LintBroker.Proofs.PythonReport

  What becomes of diagnostics that Pyright writes one to a line.  The reader knows more
  line boundaries than the newline and takes the last tail in a line, so a message is
  read back exactly when it holds no line boundary and no end of it looks like a tail
  (`Diagnostic.Clear`).  The path only has to end in a line of its own, with nothing
  before it that reads as a diagnostic: `lint_python_eq_ok_iff`.
-/
import LintBroker.Analysis
import LintBroker.Proofs.Diagnostic
import LintBroker.Proofs.Lines
import LintBroker.Proofs.Trace

namespace LintBroker.Report.Pyright

open LintBroker.Number LintBroker.Text

/-! ## Readings -/

/-- The diagnostics in a text, line by line. -/
def readings (cs : List Char) : List Tail := (linesAfter [] false cs).filterMap diagnostic?

theorem readings_append_break {front : List Char} {b : Char} (hfront : '\r' ∉ front)
    (hb : isLineBreak b = true) (hne : b ≠ '\r') (back : List Char) :
    readings (front ++ b :: back) = readings (front ++ [b]) ++ readings back := by
  unfold readings
  rw [linesAfter_append_break hfront hb hne, List.filterMap_append]

/-- A newline at the end changes nothing: it opens no line, or an empty one. -/
theorem readings_append_newline {cs : List Char} (h : '\r' ∉ cs) :
    readings (cs ++ ['\n']) = readings cs := by
  have hgeneral : ∀ line : List Char, (linesAfter line false (cs ++ ['\n'])).filterMap diagnostic?
      = (linesAfter line false cs).filterMap diagnostic? := by
    induction cs with
    | nil =>
      intro line
      cases line with
      | nil => rfl
      | cons c rest => rfl
    | cons c rest ih =>
      intro line
      obtain ⟨hc, hrest⟩ := List.ne_and_not_mem_of_not_mem_cons h
      have hc' : (c == '\r') = false := beq_eq_false_iff_ne.mpr (Ne.symm hc)
      rw [List.cons_append, linesAfter, linesAfter, hc']
      cases isLineBreak c with
      | true => simp [List.filterMap_cons, ih hrest]
      | false => simp [ih hrest]
  exact hgeneral []

/-- A text of one line shows at most one diagnostic. -/
theorem readings_of_plain {cs : List Char} (h : ∀ c ∈ cs, isLineBreak c = false) :
    readings cs = (diagnostic? cs).toList := by
  have hlines := linesAfter_append_plain h [] []
  rw [List.append_nil, List.append_nil] at hlines
  unfold readings
  rw [hlines, linesAfter]
  cases cs with
  | nil => rfl
  | cons c rest =>
    rw [if_neg (by simp), List.reverse_reverse, List.filterMap_cons]
    cases diagnostic? (c :: rest) with
    | none => rfl
    | some t => rfl

/-- The message of a reading is part of one line. -/
theorem isLineBreak_eq_false_of_mem_readings {cs : List Char} {t : Tail} (ht : t ∈ readings cs) :
    ∀ c ∈ t.message, isLineBreak c = false := by
  obtain ⟨line, hline, hread⟩ := List.mem_filterMap.mp ht
  have hplain := isLineBreak_eq_false_of_mem_linesAfter (fun c hc => by cases hc) hline
  obtain ⟨-, path, -, rfl⟩ := eq_append_of_diagnostic? (newline_not_mem_of_plain hplain) hread
  intro c hc
  apply hplain
  simp only [Tail.text, Tail.fromLine, Tail.fromColumn, Tail.fromSeverity, List.mem_append]
  tauto

/-! ## Diagnostics -/

/-- A diagnostic that can be written: path and message are not empty and hold no newline and no
    return, line and column are within the limit on digits, and the severity is a word. -/
structure Diagnostic where
  path : String
  line : Nat
  column : Nat
  severity : String
  message : String
  path_ne : path.toList ≠ [] := by decide +kernel
  path_one_line : '\n' ∉ path.toList ∧ '\r' ∉ path.toList := by decide +kernel
  line_limit : (natChars line).length ≤ digitLimit := by decide +kernel
  column_limit : (natChars column).length ≤ digitLimit := by decide +kernel
  severity_ne : severity.toList ≠ [] := by decide +kernel
  severity_word : severity.toList.all isWordChar = true := by decide +kernel
  message_ne : message.toList ≠ [] := by decide +kernel
  message_one_line : '\n' ∉ message.toList ∧ '\r' ∉ message.toList := by decide +kernel

namespace Diagnostic

/-- The parts behind the path. -/
def tail (d : Diagnostic) : Tail where
  line := natChars d.line
  column := natChars d.column
  severity := d.severity.toList
  message := d.message.toList

/-- The line of a diagnostic: path, line, column, severity and message with the marks between. -/
def text (d : Diagnostic) : List Char := d.path.toList ++ d.tail.text

/-- The issue that a diagnostic stands for, with an ordinal, in a file. -/
def issue (d : Diagnostic) (path : String) (n : Nat) : Issue where
  id := issueId tag path n
  severity := lower d.severity
  message := d.message
  line := some d.line
  column := some d.column

/-- A message that is read back: it holds no line boundary, and no end of it looks like the parts
    behind a path. -/
structure Clear (d : Diagnostic) : Prop where
  one_line : ∀ c ∈ d.message.toList, isLineBreak c = false
  no_tail : ∀ (t : Tail) (before : List Char), t.WellFormed →
    d.message.toList ≠ before ++ t.text

theorem wellFormed_tail (d : Diagnostic) : d.tail.WellFormed where
  line_ne := natChars_ne_nil _
  line_decimal _ hc := isDecimal_of_mem_natChars hc
  column_ne := natChars_ne_nil _
  column_decimal _ hc := isDecimal_of_mem_natChars hc
  severity_ne := d.severity_ne
  severity_word := List.all_eq_true.mp d.severity_word
  message_ne := d.message_ne

end Diagnostic

/-- A path that ends in a line of its own which is not empty; if there are lines before it, none of
    them reads as a diagnostic. -/
inductive EndsApart : List Char → Prop where
  | plain {last : List Char} (hne : last ≠ []) (hlast : ∀ c ∈ last, isLineBreak c = false) :
      EndsApart last
  | behind {before last : List Char} {b : Char} (hb : isLineBreak b = true)
      (hquiet : readings (before ++ [b]) = []) (hne : last ≠ [])
      (hlast : ∀ c ∈ last, isLineBreak c = false) : EndsApart (before ++ b :: last)

/-- Only in its message can a tail hold a line boundary. -/
theorem isLineBreak_eq_false_or_mem_message {t : Tail} (ht : t.WellFormed) {c : Char}
    (hc : c ∈ t.text) : isLineBreak c = false ∨ c ∈ t.message := by
  have hmarks : ∀ mark ∈ [[':'], [' ', '-', ' '], [':', ' ']], ∀ c ∈ mark,
      isLineBreak c = false := by
    simp [isLineBreak]
  simp only [Tail.text, Tail.fromLine, Tail.fromColumn, Tail.fromSeverity, List.mem_append] at hc
  rcases hc with hc | hc | hc | hc | hc | hc | hc | hc
  · exact Or.inl (hmarks [':'] (by simp) c hc)
  · exact Or.inl (isLineBreak_eq_false_of_isDecimal (ht.line_decimal c hc))
  · exact Or.inl (hmarks [':'] (by simp) c hc)
  · exact Or.inl (isLineBreak_eq_false_of_isDecimal (ht.column_decimal c hc))
  · exact Or.inl (hmarks [' ', '-', ' '] (by simp) c hc)
  · exact Or.inl (isLineBreak_eq_false_of_isWordChar (ht.severity_word c hc))
  · exact Or.inl (hmarks [':', ' '] (by simp) c hc)
  · exact Or.inr hc

/-- One diagnostic in one line gives one reading: the last tail in its message, or its own. -/
theorem readings_append_text {last : List Char} {t : Tail} (hne : last ≠ [])
    (hlast : ∀ c ∈ last, isLineBreak c = false) (ht : t.WellFormed)
    (hmessage : ∀ c ∈ t.message, isLineBreak c = false) :
    readings (last ++ t.text) = [(lastTail? t.message).getD t] := by
  have hplain : ∀ c ∈ last ++ t.text, isLineBreak c = false := by
    intro c hc
    rcases List.mem_append.mp hc with hc | hc
    · exact hlast c hc
    · exact (isLineBreak_eq_false_or_mem_message ht hc).elim id (hmessage c)
  rw [readings_of_plain hplain, diagnostic?_append_text hne ht (newline_not_mem_of_plain hplain)]
  rfl

theorem readings_text {d : Diagnostic} (hpath : EndsApart d.path.toList)
    (hmessage : ∀ c ∈ d.message.toList, isLineBreak c = false) :
    readings d.text = [(lastTail? d.message.toList).getD d.tail] := by
  have hone := d.path_one_line.2
  unfold Diagnostic.text
  generalize d.path.toList = path at hpath hone
  cases hpath with
  | plain hne hlast => exact readings_append_text hne hlast d.wellFormed_tail hmessage
  | @behind before last b hb hquiet hne hlast =>
    have hbefore : '\r' ∉ before := fun hmem => hone (List.mem_append_left _ hmem)
    have hreturn : b ≠ '\r' := by
      rintro rfl
      exact hone (List.mem_append_right _ (List.mem_cons_self ..))
    rw [List.append_assoc, List.cons_append, readings_append_break hbefore hb hreturn, hquiet,
      readings_append_text hne hlast d.wellFormed_tail hmessage]
    rfl

/-- No diagnostic is written with a return. -/
theorem return_not_mem_text (d : Diagnostic) : '\r' ∉ d.text := by
  intro hmem
  rcases List.mem_append.mp hmem with hmem | hmem
  · exact d.path_one_line.2 hmem
  · rcases isLineBreak_eq_false_or_mem_message d.wellFormed_tail hmem with h | hmem
    · cases h
    · exact d.message_one_line.2 hmem

/-! ## Output -/

/-- Diagnostics written one to a line. -/
def written (ds : List Diagnostic) : List Char := ds.flatMap fun d => d.text ++ ['\n']

/-- An output consists of diagnostics, one to a line; the last newline may be missing. -/
def Holds (output : String) (ds : List Diagnostic) : Prop :=
  output.toList = written ds ∨ output.toList ++ ['\n'] = written ds

theorem readings_written (ds : List Diagnostic) :
    readings (written ds) = ds.flatMap fun d => readings d.text := by
  induction ds with
  | nil => rfl
  | cons d rest ih =>
    have hreturn := return_not_mem_text d
    have hwritten : written (d :: rest) = d.text ++ '\n' :: written rest := by
      unfold written
      rw [List.flatMap_cons, List.append_assoc]
      rfl
    rw [hwritten, readings_append_break hreturn rfl (by decide), readings_append_newline hreturn,
      ih, List.flatMap_cons]

/-- An output is read diagnostic by diagnostic. -/
theorem readings_of_holds {output : String} {ds : List Diagnostic} (h : Holds output ds) :
    readings output.toList = ds.flatMap fun d => readings d.text := by
  rw [← readings_written]
  rcases h with h | h
  · rw [h]
  · have hreturn : '\r' ∉ written ds := by
      intro hmem
      obtain ⟨d, -, hmem⟩ := List.mem_flatMap.mp hmem
      rcases List.mem_append.mp hmem with hmem | hmem
      · exact return_not_mem_text d hmem
      · cases List.mem_singleton.mp hmem
    rw [← h, readings_append_newline]
    exact fun hmem => hreturn (h ▸ List.mem_append_left _ hmem)

/-! ## Issues -/

theorem number_natChars {n : Nat} (h : (natChars n).length ≤ digitLimit) :
    number (natChars n) = .ok (n : Int) := by
  unfold number
  rw [if_neg (Nat.not_lt.mpr h), decimalRowValue_natChars]

/-- The tail of a diagnostic gives its issue. -/
theorem issue_tail (d : Diagnostic) (path : String) (n : Nat) :
    issue path d.tail n = .ok (d.issue path n) := by
  unfold issue Diagnostic.tail Diagnostic.issue
  rw [number_natChars d.line_limit, number_natChars d.column_limit]
  simp only [String.ofList_toList]
  rfl

theorem message_of_issue {path : String} {t : Tail} {n : Nat} {i : Issue}
    (h : issue path t n = .ok i) : i.message = String.ofList t.message := by
  unfold issue at h
  obtain ⟨line, -, h⟩ := except_bind_eq_ok.mp h
  obtain ⟨column, -, h⟩ := except_bind_eq_ok.mp h
  cases h
  rfl

theorem issues_lines (output path : String) :
    issues (lines output) path
      = (readings output.toList).zipIdx.mapM fun (t, n) => issue path t n := by
  unfold issues lines readings
  rw [List.filterMap_map]
  simp only [Function.comp_def, String.toList_ofList]

/-- The issues that diagnostics stand for, numbered in their order. -/
def expected (ds : List Diagnostic) (path : String) : List Issue :=
  ds.zipIdx.map fun (d, n) => d.issue path n

/-- Clear messages are read back. -/
theorem issues_of_clear {output : String} {ds : List Diagnostic} (houtput : Holds output ds)
    (hpaths : ∀ d ∈ ds, EndsApart d.path.toList) (hclear : ∀ d ∈ ds, d.Clear) (path : String) :
    issues (lines output) path = .ok (expected ds path) := by
  have hreadings : readings output.toList = ds.map Diagnostic.tail := by
    rw [readings_of_holds houtput, List.map_eq_flatMap]
    apply List.flatMap_congr
    intro d hd
    rw [readings_text (hpaths d hd) (hclear d hd).one_line,
      lastTail?_eq_none_iff.mpr (hclear d hd).no_tail]
    rfl
  rw [issues_lines, hreadings, List.zipIdx_map, List.mapM_map]
  exact mapM_eq_ok_map fun x _ => issue_tail x.1 path x.2

theorem exists_mem_zipIdx {α : Type} {row : List α} {a : α} (ha : a ∈ row) :
    ∃ n, (a, n) ∈ row.zipIdx := by
  obtain ⟨n, hn, hget⟩ := List.getElem_of_mem ha
  exact ⟨n, List.mk_mem_zipIdx_iff_getElem?.mpr (by rw [List.getElem?_eq_getElem hn, hget])⟩

/-- A message that is not in one line is lost: nothing that is read holds a line boundary. -/
theorem one_line_of_issues {output : String} {ds : List Diagnostic} {path : String}
    (h : issues (lines output) path = .ok (expected ds path)) {d : Diagnostic} (hd : d ∈ ds) :
    ∀ c ∈ d.message.toList, isLineBreak c = false := by
  rw [issues_lines] at h
  have hrow := (forall₂_of_mapM_eq_ok h).flip
  obtain ⟨n, hn⟩ := exists_mem_zipIdx hd
  have hmem : d.issue path n ∈ expected ds path := List.mem_map.mpr ⟨(d, n), hn, rfl⟩
  obtain ⟨⟨t, m⟩, ht, hissue⟩ := exists_of_mem_of_forall₂ hrow hmem
  have hmessage : d.message = String.ofList t.message := message_of_issue hissue
  rw [hmessage, String.toList_ofList]
  exact isLineBreak_eq_false_of_mem_readings (List.fst_mem_of_mem_zipIdx ht)

/-- A message that holds a tail is cut: what is read of it is shorter. -/
theorem no_tail_of_issues {output : String} {ds : List Diagnostic} (houtput : Holds output ds)
    (hpaths : ∀ d ∈ ds, EndsApart d.path.toList) {path : String}
    (h : issues (lines output) path = .ok (expected ds path)) {d : Diagnostic} (hd : d ∈ ds) :
    lastTail? d.message.toList = none := by
  have hreadings : readings output.toList
      = ds.map fun d => (lastTail? d.message.toList).getD d.tail := by
    rw [readings_of_holds houtput, List.map_eq_flatMap]
    apply List.flatMap_congr
    intro d hd
    exact readings_text (hpaths d hd) (one_line_of_issues h hd)
  rw [issues_lines, hreadings, List.zipIdx_map] at h
  have hrow := forall₂_of_mapM_eq_ok h
  unfold expected at hrow
  rw [List.forall₂_map_left_iff, List.forall₂_map_right_iff, List.forall₂_same] at hrow
  obtain ⟨n, hn⟩ := exists_mem_zipIdx hd
  have hissue := hrow (d, n) hn
  have hmessage : d.message = _ := message_of_issue hissue
  cases hlast : lastTail? d.message.toList with
  | none => rfl
  | some t =>
    have hshort := length_message_lt_of_lastTail? hlast
    rw [hmessage] at hshort
    simp [hlast] at hshort

/-! ## The linter -/

/-- The linter reads the output of its engine, whatever its exit code and its error output. -/
theorem result_lint_python {host : Host} {engine : Engine} {target : String} {run : EngineRun}
    (hrun : (host.run { engine, file := target }).result = .ok run) (fix : Bool) :
    (Linter.python.lint host engine target fix).result = issues (lines run.stdout) target := by
  have hask : (host.ask { engine, file := target }).result = .ok run := hrun
  show (host.ask { engine, file := target } >>= pythonIssues target).result = _
  rw [Traced.bind_of_ok hask]
  simp only [pythonIssues]
  split
  · rfl
  · rfl

/-- When the engine writes diagnostics whose paths end apart, one to a line, the linter finds
    exactly the issues that they stand for, in their order, if and only if all their messages are
    clear. -/
theorem lint_python_eq_ok_iff {host : Host} {engine : Engine} {target : String} {run : EngineRun}
    (hrun : (host.run { engine, file := target }).result = .ok run) {ds : List Diagnostic}
    (houtput : Holds run.stdout ds) (hpaths : ∀ d ∈ ds, EndsApart d.path.toList) (fix : Bool) :
    (Linter.python.lint host engine target fix).result = .ok (expected ds target)
      ↔ ∀ d ∈ ds, d.Clear := by
  rw [result_lint_python hrun]
  constructor
  · intro h d hd
    exact ⟨one_line_of_issues h hd,
      lastTail?_eq_none_iff.mp (no_tail_of_issues houtput hpaths h hd)⟩
  · intro hclear
    exact issues_of_clear houtput hpaths hclear target

/-- A host on which every engine writes the same text. -/
def echoHost (output : String) : Host where
  disk :=
    { kind := fun _ => .ok .regular, bytes := fun _ => .ok [], executable := fun _ => false
      workingDirectory := "/" }
  dataDirectory := "/data"
  searchPath := none
  run _ := pure { returnCode := 1, stdout := output, stderr := "" }

/-- A diagnostic about a file in a directory. -/
def plainDiagnostic : Diagnostic where
  path := "src/a.py"
  line := 12
  column := 5
  severity := "Error"
  message := "\"b\" is not defined: see line 3"

/-- The line of the plain diagnostic. -/
def plainOutput : String := "src/a.py:12:5 - Error: \"b\" is not defined: see line 3\n"

/-- The plain diagnostic is read back from its line. -/
theorem lint_python_plainDiagnostic :
    Holds plainOutput [plainDiagnostic] ∧ EndsApart plainDiagnostic.path.toList
      ∧ plainDiagnostic.Clear
      ∧ (Linter.python.lint (echoHost plainOutput) Engine.pyright "a.py" true).result
        = .ok (expected [plainDiagnostic] "a.py") := by
  have hrun : ((echoHost plainOutput).run { engine := Engine.pyright, file := "a.py" }).result
      = .ok { returnCode := 1, stdout := plainOutput, stderr := "" } := rfl
  have houtput : Holds plainOutput [plainDiagnostic] := Or.inl (by decide +kernel)
  have hplain : (plainDiagnostic.path ++ plainDiagnostic.message).toList.all
      (fun c => !isLineBreak c) = true := by
    decide +kernel
  have hpath : EndsApart plainDiagnostic.path.toList := by
    refine .plain plainDiagnostic.path_ne fun c hc => ?_
    have := List.all_eq_true.mp hplain c (by simp [hc])
    simpa using this
  have hclear : plainDiagnostic.Clear := by
    refine ⟨fun c hc => ?_, lastTail?_eq_none_iff.mp (by decide +kernel)⟩
    have := List.all_eq_true.mp hplain c (by simp [hc])
    simpa using this
  refine ⟨houtput, hpath, hclear, (lint_python_eq_ok_iff hrun houtput ?_ true).mpr ?_⟩
  · intro d hd
    rw [List.mem_singleton.mp hd]
    exact hpath
  · intro d hd
    rw [List.mem_singleton.mp hd]
    exact hclear

/-- A diagnostic whose message has the end of a second one in it. -/
def nestedDiagnostic : Diagnostic where
  path := "a.py"
  line := 1
  column := 2
  severity := "error"
  message := "x:3:4 - warning: y"

/-- A diagnostic whose message has a form feed in it. -/
def brokenDiagnostic : Diagnostic where
  path := "a.py"
  line := 1
  column := 2
  severity := "error"
  message := "one\x0ctwo"

/-- A diagnostic whose path ends in a form feed. -/
def pathlessDiagnostic : Diagnostic where
  path := "a.py\x0c"
  line := 1
  column := 2
  severity := "error"
  message := "one"

/-- Of the nested diagnostic the inner one is read, of the broken one the first line, and nothing
    of one whose line has no path. -/
theorem lint_python_nestedDiagnostic :
    (Holds "a.py:1:2 - error: x:3:4 - warning: y\n" [nestedDiagnostic]
        ∧ (Linter.python.lint (echoHost "a.py:1:2 - error: x:3:4 - warning: y\n") Engine.pyright
          "m.py" false).result ≠ .ok (expected [nestedDiagnostic] "m.py"))
      ∧ (Holds "a.py:1:2 - error: one\x0ctwo\n" [brokenDiagnostic]
        ∧ (Linter.python.lint (echoHost "a.py:1:2 - error: one\x0ctwo\n") Engine.pyright
          "m.py" false).result ≠ .ok (expected [brokenDiagnostic] "m.py"))
      ∧ (Holds "a.py\x0c:1:2 - error: one\n" [pathlessDiagnostic]
        ∧ (Linter.python.lint (echoHost "a.py\x0c:1:2 - error: one\n") Engine.pyright
          "m.py" false).result ≠ .ok (expected [pathlessDiagnostic] "m.py")) := by
  refine ⟨⟨Or.inl ?_, ?_⟩, ⟨Or.inl ?_, ?_⟩, ⟨Or.inl ?_, ?_⟩⟩
  all_goals decide +kernel

end LintBroker.Report.Pyright
