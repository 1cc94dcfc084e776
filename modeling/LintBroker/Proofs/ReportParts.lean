/-
  LintBroker.Proofs.ReportParts

  Reports that are put together from parts.  Where the ordinals start anew for each
  file, the issues of two reports in a row are those of the one and then those of the
  other; where one row of ordinals runs through, those of the second part are numbered
  on.  A report that is *padded* with values that are no tables, or with lines that show
  no diagnostic, gives the same issues: what is passed over takes no ordinal.
  Everything is in `issues_of_parts`.
-/
import LintBroker.Proofs.LineCut
import LintBroker.Proofs.Reports

namespace LintBroker.Report

open LintBroker.Number LintBroker.Text

/-! ## One part behind the other -/

/-- The issues of two parts, one behind the other.  The first part that fails decides. -/
def inRow (front back : Except Failure (List Issue)) : Except Failure (List Issue) := do
  let issues ← front
  let others ← back
  pure (issues ++ others)

/-- Issues with the ids of a row of ordinals that begins with a number. -/
def numberedFrom (tag path : String) (start : Nat) (issues : List Issue) : List Issue :=
  (issues.zipIdx start).map fun (issue, n) => { issue with id := issueId tag path n }

/-- The issues of two parts, one behind the other, where the ordinals of the second part go on from
    those of the first.  The first part that fails decides. -/
def numberedOn (tag path : String) (front back : Except Failure (List Issue)) :
    Except Failure (List Issue) := do
  let issues ← front
  let others ← back
  pure (issues ++ numberedFrom tag path issues.length others)

theorem mapM_append_inRow {α : Type} {f : α → Except Failure Issue} (front back : List α) :
    (front ++ back).mapM f = inRow (front.mapM f) (back.mapM f) :=
  List.mapM_append

section Numbered

variable {α : Type} {tag path : String} {f : α → Nat → Except Failure Issue}

/-- An ordinal has no part in an issue but for its id. -/
def OrdinalInId (tag path : String) (f : α → Nat → Except Failure Issue) : Prop :=
  ∀ a m n, f a m = (f a n).map fun issue => { issue with id := issueId tag path m }

/-- Rows that differ in their first ordinal alone give issues that differ in their ids alone. -/
theorem mapM_zipIdx_eq_map (hf : OrdinalInId tag path f) (row : List α) (m n : Nat) :
    (row.zipIdx m).mapM (fun p => f p.1 p.2)
      = ((row.zipIdx n).mapM fun p => f p.1 p.2).map (numberedFrom tag path m) := by
  induction row generalizing m n with
  | nil => rfl
  | cons a rest ih =>
    rw [List.zipIdx_cons, List.zipIdx_cons, List.mapM_cons, List.mapM_cons, ih (m + 1) (n + 1),
      hf a m n]
    cases f a n with
    | error failure => rfl
    | ok issue =>
      cases (rest.zipIdx (n + 1)).mapM fun p => f p.1 p.2 with
      | error failure => rfl
      | ok issues => rfl

theorem mapM_zipIdx_append (hf : OrdinalInId tag path f) (front back : List α) :
    (front ++ back).zipIdx.mapM (fun p => f p.1 p.2)
      = numberedOn tag path (front.zipIdx.mapM fun p => f p.1 p.2)
        (back.zipIdx.mapM fun p => f p.1 p.2) := by
  rw [List.zipIdx_append, List.mapM_append]
  cases hfront : front.zipIdx.mapM fun p => f p.1 p.2 with
  | error failure => rfl
  | ok issues =>
    have hlength : front.length = issues.length := by
      rw [← (forall₂_of_mapM_eq_ok hfront).length_eq, List.length_zipIdx]
    rw [mapM_zipIdx_eq_map hf back (0 + front.length) 0, Nat.zero_add, hlength]
    cases back.zipIdx.mapM fun p => f p.1 p.2 with
    | error failure => rfl
    | ok others => rfl

/-- A row that is numbered from the start has its own numbers. -/
theorem numberedFrom_zero (hf : OrdinalInId tag path f) {row : List α} {issues : List Issue}
    (h : row.zipIdx.mapM (fun p => f p.1 p.2) = .ok issues) :
    numberedFrom tag path 0 issues = issues := by
  have hsame := mapM_zipIdx_eq_map hf row 0 0
  rw [h] at hsame
  exact (Except.ok.inj hsame).symm

end Numbered

theorem Htmlhint.ordinalInId (path : String) :
    OrdinalInId Htmlhint.tag path (Htmlhint.issue path) := by
  intro message m n
  unfold Htmlhint.issue
  cases optionalInt (message.get "line") with
  | error failure => rfl
  | ok line =>
    cases optionalInt (message.get "col") with
    | error failure => rfl
    | ok column => rfl

theorem Pyright.ordinalInId (path : String) :
    OrdinalInId Pyright.tag path (Pyright.issue path) := by
  intro t m n
  unfold Pyright.issue
  cases Pyright.number t.line with
  | error failure => rfl
  | ok line =>
    cases Pyright.number t.column with
    | error failure => rfl
    | ok column => rfl

/-! ## Padding -/

/-- A row comes from another one: strays are put in anywhere, and for each of its members stands one
    that is as good. -/
inductive Padded {α : Type} (stray : α → Prop) (asGood : α → α → Prop) :
    List α → List α → Prop where
  | nil : Padded stray asGood [] []
  | stray {a : α} {row row' : List α} (ha : stray a) (h : Padded stray asGood row row') :
    Padded stray asGood row (a :: row')
  | member {a a' : α} {row row' : List α} (ha : asGood a a') (h : Padded stray asGood row row') :
    Padded stray asGood (a :: row) (a' :: row')

/-- Padding does not show in what the members of a row give, if strays give nothing. -/
theorem Padded.flatMap_eq {α β : Type} {stray : α → Prop} {asGood : α → α → Prop}
    {row row' : List α} {f : α → List β} (h : Padded stray asGood row row')
    (hstray : ∀ a, stray a → f a = []) (hgood : ∀ a a', asGood a a' → f a' = f a) :
    row'.flatMap f = row.flatMap f := by
  induction h with
  | nil => rfl
  | stray ha _ ih => rw [List.flatMap_cons, hstray _ ha, List.nil_append, ih]
  | member ha _ ih => rw [List.flatMap_cons, List.flatMap_cons, hgood _ _ ha, ih]

/-- A value that is no table. -/
def NoTable (value : Datum) : Prop := value.table? = none

/-- The same value, or a table with the same members but for one list, which is padded with values
    that are no tables. -/
inductive SameEntry (listName : String) : Datum → Datum → Prop where
  | same (value : Datum) : SameEntry listName value value
  | padded {file file' : Members} {row row' : List Datum}
    (hlist : file.get? listName = some (.list row))
    (hlist' : file'.get? listName = some (.list row'))
    (hothers : ∀ name, name ≠ listName → file'.get? name = file.get? name)
    (hrow : Padded NoTable Eq row row') : SameEntry listName (.table file) (.table file')

/-- A report is padded with values that are no tables, among its entries and in the lists that they
    have under a name. -/
def PaddedReport (listName : String) : List Datum → List Datum → Prop :=
  Padded NoTable (SameEntry listName)

theorem tables_eq_flatMap (row : List Datum) :
    tables (.list row) = row.flatMap fun value => value.table?.toList :=
  List.filterMap_eq_flatMap_toList ..

theorem tables_append (front back : List Datum) :
    tables (.list (front ++ back)) = tables (.list front) ++ tables (.list back) :=
  List.filterMap_append

theorem tables_of_padded {row row' : List Datum} (h : Padded NoTable Eq row row') :
    tables (.list row') = tables (.list row) := by
  rw [tables_eq_flatMap, tables_eq_flatMap]
  refine h.flatMap_eq (fun value hvalue => ?_) (fun value value' heq => by rw [heq])
  rw [show value.table? = none from hvalue]
  rfl

/-- What goes by the tables of a report alone does not change when it is padded, if it is the same for
    files that differ in the padding of their lists. -/
theorem flatMap_tables_of_padded {β : Type} {listName : String} {row row' : List Datum}
    {f : Members → List β} (h : PaddedReport listName row row')
    (hf : ∀ file file' : Members, tables (file'.get listName) = tables (file.get listName) →
      (∀ name, name ≠ listName → file'.get name = file.get name) → f file' = f file) :
    (tables (.list row')).flatMap f = (tables (.list row)).flatMap f := by
  rw [tables_eq_flatMap, tables_eq_flatMap, List.flatMap_assoc, List.flatMap_assoc]
  refine Padded.flatMap_eq h (fun value hvalue => ?_) (fun value value' hvalue => ?_)
  · rw [show value.table? = none from hvalue]
    rfl
  · cases hvalue with
    | same => rfl
    | @padded file file' inner inner' hlist hlist' hothers hrow =>
      have hget : tables (file'.get listName) = tables (file.get listName) := by
        unfold Members.get
        rw [hlist, hlist']
        exact tables_of_padded hrow
      have hsame : f file' = f file := by
        refine hf file file' hget fun name hname => ?_
        unfold Members.get
        rw [hothers name hname]
      show [file'].flatMap f = [file].flatMap f
      rw [List.flatMap_singleton, List.flatMap_singleton, hsame]

theorem entriesByFile_of_padded {pathName listName : String} (hne : pathName ≠ listName)
    {row row' : List Datum} (h : PaddedReport listName row row') :
    entriesByFile pathName listName (.list row') = entriesByFile pathName listName (.list row) := by
  refine flatMap_tables_of_padded h fun file file' hlist hothers => ?_
  rw [hlist, hothers pathName hne]

theorem Htmlhint.messages_of_padded {row row' : List Datum}
    (h : PaddedReport "messages" row row') :
    Htmlhint.messages (.list row') = Htmlhint.messages (.list row) :=
  flatMap_tables_of_padded h fun _ _ hlist _ => hlist

/-- A line that shows no diagnostic: it cannot be cut into one. -/
def NoDiagnostic (line : String) : Prop := ∀ c : Pyright.Cut, ¬ c.Reads line.toList

theorem Pyright.issues_of_padded {lines lines' : List String}
    (h : Padded NoDiagnostic Eq lines lines') (path : String) :
    Pyright.issues lines' path = Pyright.issues lines path := by
  have hread : (lines'.filterMap fun line => Pyright.diagnostic? line.toList)
      = lines.filterMap fun line => Pyright.diagnostic? line.toList := by
    rw [List.filterMap_eq_flatMap_toList, List.filterMap_eq_flatMap_toList]
    refine h.flatMap_eq (fun line hline => ?_) (fun line line' heq => by rw [heq])
    rw [Pyright.diagnostic?_eq_none_iff.mpr hline]
    rfl
  unfold Pyright.issues
  rw [hread]

/-! ## The four readers -/

theorem entriesByFile_append (pathName listName : String) (front back : List Datum) :
    entriesByFile pathName listName (.list (front ++ back))
      = entriesByFile pathName listName (.list front)
        ++ entriesByFile pathName listName (.list back) := by
  unfold entriesByFile
  rw [tables_append, List.flatMap_append]

theorem Htmlhint.messages_append (front back : List Datum) :
    Htmlhint.messages (.list (front ++ back))
      = Htmlhint.messages (.list front) ++ Htmlhint.messages (.list back) := by
  unfold Htmlhint.messages
  rw [tables_append, List.flatMap_append]

/-- The issues of a report in two parts, and of a padded one.  Those of scripts and of style sheets are
    the issues of the parts; for pages and for Python the ordinals of the second part, which begin
    with zero when it is read alone, go on from those of the first.  No stray has a part in it. -/
theorem issues_of_parts (front back : List Datum) (lines others : List String) (path : String) :
    (Eslint.issues (.list (front ++ back))
        = inRow (Eslint.issues (.list front)) (Eslint.issues (.list back))
      ∧ Stylelint.issues (.list (front ++ back))
        = inRow (Stylelint.issues (.list front)) (Stylelint.issues (.list back))
      ∧ Htmlhint.issues (.list (front ++ back)) path
        = numberedOn Htmlhint.tag path (Htmlhint.issues (.list front) path)
          (Htmlhint.issues (.list back) path)
      ∧ Pyright.issues (lines ++ others) path
        = numberedOn Pyright.tag path (Pyright.issues lines path) (Pyright.issues others path))
    ∧ ((∀ issues, Htmlhint.issues (.list back) path = .ok issues →
          numberedFrom Htmlhint.tag path 0 issues = issues)
      ∧ ∀ issues, Pyright.issues others path = .ok issues →
          numberedFrom Pyright.tag path 0 issues = issues)
    ∧ (∀ padded, PaddedReport "messages" front padded →
        Eslint.issues (.list padded) = Eslint.issues (.list front)
          ∧ Htmlhint.issues (.list padded) path = Htmlhint.issues (.list front) path)
    ∧ (∀ padded, PaddedReport "warnings" front padded →
        Stylelint.issues (.list padded) = Stylelint.issues (.list front))
    ∧ ∀ padded, Padded NoDiagnostic Eq lines padded →
        Pyright.issues padded path = Pyright.issues lines path := by
  refine ⟨⟨?_, ?_, ?_, ?_⟩, ⟨fun issues h => ?_, fun issues h => ?_⟩, fun padded h => ⟨?_, ?_⟩,
    fun padded h => ?_, fun padded h => Pyright.issues_of_padded h path⟩
  · rw [Eslint.issues_eq, Eslint.issues_eq, Eslint.issues_eq, entriesByFile_append,
      mapM_append_inRow]
  · rw [Stylelint.issues_eq, Stylelint.issues_eq, Stylelint.issues_eq, entriesByFile_append,
      mapM_append_inRow]
  · unfold Htmlhint.issues
    rw [Htmlhint.messages_append]
    exact mapM_zipIdx_append (Htmlhint.ordinalInId path) _ _
  · unfold Pyright.issues
    rw [List.filterMap_append]
    exact mapM_zipIdx_append (Pyright.ordinalInId path) _ _
  · exact numberedFrom_zero (Htmlhint.ordinalInId path) h
  · exact numberedFrom_zero (Pyright.ordinalInId path) h
  · rw [Eslint.issues_eq, Eslint.issues_eq, entriesByFile_of_padded (by decide) h]
  · unfold Htmlhint.issues
    rw [Htmlhint.messages_of_padded h]
  · rw [Stylelint.issues_eq, Stylelint.issues_eq, entriesByFile_of_padded (by decide) h]

/-- A file of a report with its messages. -/
def fileWith (messages : List Datum) : Datum :=
  .table [("filePath", .text "a.js"), ("messages", .list messages)]

/-- Two messages, one with a position. -/
def twoMessages : List Datum := [.table [("line", .int 1)], .table []]

/-- The two messages with a number before them and null between them. -/
def strayMessages : List Datum := [.int 3, .table [("line", .int 1)], .null, .table []]

/-- The report on a file with the two messages, padded in all places. -/
def strayReport : List Datum := [.text "a", fileWith strayMessages, .list [fileWith twoMessages]]

theorem sameEntry_fileWith {row row' : List Datum} (h : Padded NoTable Eq row row') :
    SameEntry "messages" (fileWith row) (fileWith row') := by
  refine .padded rfl rfl (fun name hname => ?_) h
  simp only [Members.get?, List.lookup_cons, beq_eq_false_iff_ne.mpr hname]

/-- The padded report gives the issues of the plain one, and the messages of a second file are
    numbered on from there. -/
theorem issues_of_parts_strayReport :
    PaddedReport "messages" [fileWith twoMessages] strayReport
      ∧ Htmlhint.issues (.list strayReport) "p" = Htmlhint.issues (.list [fileWith twoMessages]) "p"
      ∧ (Htmlhint.issues (.list ([fileWith twoMessages] ++ [fileWith twoMessages])) "p").map
          (List.map Issue.id) = .ok ["html-p-0", "html-p-1", "html-p-2", "html-p-3"]
      ∧ Padded NoDiagnostic Eq ["a:1:2 - error: b"] ["", "a:1:2 - error: b", "1 error"]
      ∧ Pyright.issues ["", "a:1:2 - error: b", "1 error"] "p"
        = Pyright.issues ["a:1:2 - error: b"] "p" := by
  have hmessages : Padded NoTable Eq twoMessages strayMessages :=
    .stray rfl (.member rfl (.stray rfl (.member rfl .nil)))
  have hreport : PaddedReport "messages" [fileWith twoMessages] strayReport :=
    .stray rfl (.member (sameEntry_fileWith hmessages) (.stray rfl .nil))
  have hlines : Padded NoDiagnostic Eq ["a:1:2 - error: b"] ["", "a:1:2 - error: b", "1 error"] := by
    refine .stray ?_ (.member rfl (.stray ?_ .nil))
    · exact Pyright.diagnostic?_eq_none_iff.mp (by decide +kernel)
    · exact Pyright.diagnostic?_eq_none_iff.mp (by decide +kernel)
  obtain ⟨⟨-, -, hpages, -⟩, -, hpadded, -, hpaddedLines⟩ := issues_of_parts
    [fileWith twoMessages] [fileWith twoMessages] ["a:1:2 - error: b"] ["a:1:2 - error: b"] "p"
  refine ⟨hreport, (hpadded _ hreport).2, ?_, hlines, hpaddedLines _ hlines⟩
  rw [hpages]
  decide +kernel

end LintBroker.Report
