/-
  LintBroker.Proofs.IssueIds

  Ids of issues.  An id is a tag, a path and an ordinal with dashes between them; since an
  ordinal has no dash, the id tells its path and its ordinal even when the path is full
  of dashes and digits (`issueId_inj`), and it never ends as the id of a fault does.
  Numbered in one row the issues of a report have distinct ids; numbered file by file
  they have distinct ids exactly if the files with messages have distinct paths.
-/
import LintBroker.Analysis
import LintBroker.Proofs.Reports
import Mathlib.Data.List.Nodup

namespace LintBroker

open LintBroker.Number LintBroker.Report

/-! ## One id -/

/-- A text is cut at the last place of a mark in one way. -/
theorem append_cons_inj_of_not_mem {before before' behind behind' : List Char} {mark : Char}
    (h : mark ∉ behind) (h' : mark ∉ behind') :
    before ++ mark :: behind = before' ++ mark :: behind' ↔ before = before' ∧ behind = behind' := by
  have hcut : ∀ {front back : List Char}, mark ∉ back →
      (back.reverse ++ mark :: front.reverse).takeWhile (· != mark) = back.reverse
        ∧ (back.reverse ++ mark :: front.reverse).dropWhile (· != mark) = mark :: front.reverse := by
    intro front back hback
    have hfar : ∀ c ∈ back.reverse, (c != mark) = true := by
      intro c hc
      rw [bne_iff_ne]
      rintro rfl
      exact hback (List.mem_reverse.mp hc)
    have hstop := @stop_cons _ (· != mark) mark (bne_self_eq_false mark) front.reverse
    exact ⟨takeWhile_append_of_stop hfar hstop, dropWhile_append_of_stop hfar hstop⟩
  constructor
  · intro heq
    have hreversed : behind.reverse ++ mark :: before.reverse
        = behind'.reverse ++ mark :: before'.reverse := by
      simpa using congrArg List.reverse heq
    have hbehind := congrArg (List.takeWhile (· != mark)) hreversed
    have hbefore := congrArg (List.dropWhile (· != mark)) hreversed
    rw [(hcut h).1, (hcut h').1] at hbehind
    rw [(hcut h).2, (hcut h').2] at hbefore
    exact ⟨List.reverse_inj.mp (List.cons.inj hbefore).2, List.reverse_inj.mp hbehind⟩
  · rintro ⟨rfl, rfl⟩
    rfl

theorem dash_not_mem_natChars (n : Nat) : '-' ∉ natChars n := by
  intro h
  have hdecimal := isDecimal_of_mem_natChars h
  revert hdecimal
  decide +kernel

theorem natChars_inj {m n : Nat} : natChars m = natChars n ↔ m = n := by
  constructor
  · intro h
    rw [← decimalRowValue_natChars m, ← decimalRowValue_natChars n, h]
  · rintro rfl
    rfl

/-- The characters of an id. -/
theorem toList_issueId (tag path : String) (ordinal : Nat) :
    (issueId tag path ordinal).toList
      = tag.toList ++ '-' :: (path.toList ++ '-' :: natChars ordinal) := by
  unfold issueId natText
  simp

/-- An id tells its path and its ordinal. -/
theorem issueId_inj {tag path path' : String} {n n' : Nat} :
    issueId tag path n = issueId tag path' n' ↔ path = path' ∧ n = n' := by
  rw [← String.toList_inj, toList_issueId, toList_issueId, List.append_cancel_left_eq,
    List.cons.injEq, append_cons_inj_of_not_mem (dash_not_mem_natChars n)
      (dash_not_mem_natChars n'), String.toList_inj, natChars_inj]
  simp

/-- No id is that of a fault with its tag: what follows the tag has a dash of its own. -/
theorem issueId_ne_faultId (fault : EngineFault) (path : String) (n : Nat) :
    issueId fault.tag path n ≠ fault.issue.id := by
  intro h
  have hchars : path.toList ++ '-' :: natChars n = "error".toList := by
    have hlist := congrArg String.toList h
    rw [toList_issueId] at hlist
    simpa [EngineFault.issue] using hlist
  have hdash : '-' ∈ "error".toList := by
    rw [← hchars]
    exact List.mem_append_right _ (List.mem_cons_self ..)
  revert hdash
  decide

/-! ## Ids of a row -/

theorem nodup_map_issueId (tag path : String) (count : Nat) :
    ((List.range count).map (issueId tag path)).Nodup :=
  List.Nodup.map (fun _ _ h => (issueId_inj.mp h).2) List.nodup_range

/-- The ordinals of a numbered row are the numbers below its length. -/
theorem map_zipIdx_issueId {β : Type} (tag path : String) (row : List β) :
    (row.zipIdx.map fun p => issueId tag path p.2)
      = (List.range row.length).map (issueId tag path) := by
  rw [List.range_eq_range', ← List.zipIdx_map_snd, List.map_map]
  rfl

variable {α : Type} (tag : String) (path : α → String) (count : α → Nat)

/-- The ids of a row, numbered for itself. -/
def rowIds (a : α) : List String := (List.range (count a)).map (issueId tag (path a))

variable {tag path count} in
theorem mem_rowIds {a : α} {id : String} :
    id ∈ rowIds tag path count a ↔ ∃ n < count a, issueId tag (path a) n = id := by
  simp [rowIds]

/-- A row that is not empty shares no id with other rows exactly if none of those that are not empty
    has its path. -/
theorem apart_rowIds_iff {a : α} (ha : 0 < count a) (rest : List α) :
    (∀ id ∈ rowIds tag path count a, ∀ id' ∈ rest.flatMap (rowIds tag path count), id ≠ id')
      ↔ path a ∉ (rest.filter fun b => 0 < count b).map path := by
  constructor
  · intro hapart hmem
    obtain ⟨b, hb, hpath⟩ := List.mem_map.mp hmem
    obtain ⟨hb, hcount⟩ := List.mem_filter.mp hb
    have hown : issueId tag (path a) 0 ∈ rowIds tag path count a := mem_rowIds.mpr ⟨0, ha, rfl⟩
    have hother : issueId tag (path b) 0 ∈ rowIds tag path count b :=
      mem_rowIds.mpr ⟨0, of_decide_eq_true hcount, rfl⟩
    refine hapart _ hown _ (List.mem_flatMap.mpr ⟨b, hb, hother⟩) ?_
    rw [hpath]
  · rintro hnot id hid _ hid' rfl
    obtain ⟨m, -, hm⟩ := mem_rowIds.mp hid
    obtain ⟨b, hb, hid'⟩ := List.mem_flatMap.mp hid'
    obtain ⟨n, hn, hid'⟩ := mem_rowIds.mp hid'
    rw [(issueId_inj.mp (hm.trans hid'.symm)).1] at hnot
    refine hnot (List.mem_map_of_mem (List.mem_filter.mpr ⟨hb, decide_eq_true ?_⟩))
    exact Nat.zero_lt_of_lt hn

/-- Rows that are numbered each for itself have distinct ids exactly if those that are not empty
    have distinct paths. -/
theorem nodup_flatMap_rowIds_iff (rows : List α) :
    (rows.flatMap (rowIds tag path count)).Nodup
      ↔ ((rows.filter fun a => 0 < count a).map path).Nodup := by
  induction rows with
  | nil => simp
  | cons a rest ih =>
    rw [List.flatMap_cons, List.nodup_append, ih, List.filter_cons]
    rcases Nat.eq_zero_or_pos (count a) with hempty | hfilled
    · simp [rowIds, hempty]
    · have hown : (rowIds tag path count a).Nodup := nodup_map_issueId tag (path a) (count a)
      rw [apart_rowIds_iff tag path count hfilled, if_pos (decide_eq_true hfilled), List.map_cons,
        List.nodup_cons]
      tauto

/-! ## Ids of reports -/

namespace Report

theorem map_id_of_forall₂ {β : Type} {R : β → Issue → Prop} {idOf : β → String} {row : List β}
    {issues : List Issue} (hid : ∀ b issue, R b issue → issue.id = idOf b)
    (h : List.Forall₂ R row issues) : issues.map Issue.id = row.map idOf := by
  induction h with
  | nil => rfl
  | cons hissue _ ih => rw [List.map_cons, List.map_cons, ih, hid _ _ hissue]

/-- The issues of a row that is read entry by entry have the ids of the entries. -/
theorem Reading.map_id_of_mapM {r : Reading} {row : List Entry} {issues : List Issue}
    (h : row.mapM r.issue = .ok issues) :
    issues.map Issue.id = row.map fun e => issueId r.tag e.path e.ordinal :=
  map_id_of_forall₂ (fun _ _ hissue => (Reading.shows_of_issue hissue).id)
    (forall₂_of_mapM_eq_ok h)

/-- The paths of the files in a report that have a message. -/
def messagePaths (pathName listName : String) (report : Datum) : List String :=
  ((tables report).filter fun file => 0 < (tables (file.get listName)).length).map
    fun file => textOr (file.get pathName) ""

theorem map_issueId_entriesByFile (tag pathName listName : String) (report : Datum) :
    ((entriesByFile pathName listName report).map fun e => issueId tag e.path e.ordinal)
      = (tables report).flatMap (rowIds tag (fun file => textOr (file.get pathName) "")
        fun file => (tables (file.get listName)).length) := by
  unfold entriesByFile
  rw [List.map_flatMap]
  congr 1
  funext file
  rw [rowIds, List.map_map, ← map_zipIdx_issueId]
  rfl

/-- Issues, none of which has the id of a fault of the linter. -/
def ApartFromFaults (linter : Linter) (issues : List Issue) : Prop :=
  ∀ fault : EngineFault, fault.tag = linter.tag → ∀ issue ∈ issues, issue.id ≠ fault.issue.id

/-- Issues that are numbered in one row under one path. -/
structure InOneRow (linter : Linter) (path : String) (issues : List Issue) : Prop where
  ids : issues.map Issue.id = (List.range issues.length).map (issueId linter.tag path)
  nodup : (issues.map Issue.id).Nodup
  apart : ApartFromFaults linter issues

/-- Issues that are numbered under each path anew: their ids are distinct exactly if the paths
    are. -/
structure InRowsBy (linter : Linter) (paths : List String) (issues : List Issue) : Prop where
  nodup_iff : (issues.map Issue.id).Nodup ↔ paths.Nodup
  apart : ApartFromFaults linter issues

theorem apartFromFaults_of_map_id {β : Type} {linter : Linter} {issues : List Issue}
    {path : β → String} {ordinal : β → Nat} {row : List β}
    (h : issues.map Issue.id = row.map fun b => issueId linter.tag (path b) (ordinal b)) :
    ApartFromFaults linter issues := by
  intro fault htag issue hissue
  have hid := @List.mem_map_of_mem _ _ _ _ Issue.id hissue
  rw [h] at hid
  obtain ⟨b, -, hb⟩ := List.mem_map.mp hid
  rw [← hb, ← htag]
  exact issueId_ne_faultId fault _ _

theorem inRowsBy_of_mapM {linter : Linter} {r : Reading} {pathName listName : String}
    {report : Datum} {issues : List Issue} (htag : r.tag = linter.tag)
    (h : (entriesByFile pathName listName report).mapM r.issue = .ok issues) :
    InRowsBy linter (messagePaths pathName listName report) issues := by
  have hids := Reading.map_id_of_mapM h
  refine ⟨?_, apartFromFaults_of_map_id (htag ▸ hids)⟩
  rw [hids, map_issueId_entriesByFile, nodup_flatMap_rowIds_iff]
  rfl

theorem inOneRow_of_map_id {linter : Linter} {path : String} {issues : List Issue} {count : Nat}
    (h : issues.map Issue.id = (List.range count).map (issueId linter.tag path)) :
    InOneRow linter path issues := by
  have hlength : issues.length = count := by simpa using congrArg List.length h
  refine ⟨hlength ▸ h, ?_, apartFromFaults_of_map_id h⟩
  rw [h]
  exact nodup_map_issueId linter.tag path count

theorem Htmlhint.map_id {report : Datum} {path : String} {issues : List Issue}
    (h : Htmlhint.issues report path = .ok issues) :
    issues.map Issue.id
      = (List.range (Htmlhint.messages report).length).map (issueId Htmlhint.tag path) := by
  rw [Htmlhint.issues_eq] at h
  rw [Reading.map_id_of_mapM h, ← map_zipIdx_issueId, Htmlhint.entries, List.map_map]
  rfl

theorem Pyright.id_of_issue {path : String} {t : Pyright.Tail} {n : Nat} {i : Issue}
    (h : Pyright.issue path t n = .ok i) : i.id = issueId Pyright.tag path n := by
  obtain ⟨line, -, h⟩ := except_bind_eq_ok.mp h
  obtain ⟨column, -, h⟩ := except_bind_eq_ok.mp h
  cases h
  rfl

theorem Pyright.map_id {lines : List String} {path : String} {issues : List Issue}
    (h : Pyright.issues lines path = .ok issues) :
    ∃ count, issues.map Issue.id = (List.range count).map (issueId Pyright.tag path) := by
  refine ⟨(lines.filterMap fun line => Pyright.diagnostic? line.toList).length, ?_⟩
  have hrow := forall₂_of_mapM_eq_ok h
  rw [← map_zipIdx_issueId]
  exact map_id_of_forall₂ (fun _ _ hissue => Pyright.id_of_issue hissue) hrow

/-- The ids of all that is read from a report, whatever its paths hold. -/
theorem ids_of_reports (report : Datum) (lines : List String) (path : String) :
    (∀ issues, Eslint.issues report = .ok issues →
        InRowsBy .script (messagePaths "filePath" "messages" report) issues)
      ∧ (∀ issues, Stylelint.issues report = .ok issues →
        InRowsBy .style (messagePaths "source" "warnings" report) issues)
      ∧ (∀ issues, Htmlhint.issues report path = .ok issues → InOneRow .page path issues)
      ∧ ∀ issues, Pyright.issues lines path = .ok issues → InOneRow .python path issues := by
  refine ⟨fun issues h => ?_, fun issues h => ?_, fun issues h => ?_, fun issues h => ?_⟩
  · rw [Eslint.issues_eq] at h
    exact inRowsBy_of_mapM rfl h
  · rw [Stylelint.issues_eq] at h
    exact inRowsBy_of_mapM rfl h
  · exact inOneRow_of_map_id (Htmlhint.map_id h)
  · obtain ⟨count, hids⟩ := Pyright.map_id h
    exact inOneRow_of_map_id hids

/-- A report on two files whose paths are alike up to a dash and a digit, and on the first of them
    once more without a message. -/
def dashedReport : Datum :=
  .list
    [.table [("filePath", .text "a-1"), ("messages", .list [.table [], .table []])],
      .table [("filePath", .text "a"), ("messages", .list [.table []])],
      .table [("filePath", .text "a-1"), ("messages", .list [.null])]]

/-- The ids of the scripts are distinct, since the paths of the files with messages are, and those of
    a page are numbered through all files, also where its path is the word in the id of a fault. -/
theorem ids_of_reports_dashedReport :
    (∃ issues, Eslint.issues dashedReport = .ok issues
        ∧ messagePaths "filePath" "messages" dashedReport = ["a-1", "a"]
        ∧ (issues.map Issue.id).Nodup)
      ∧ (∃ issues, Stylelint.issues dashedReport = .ok issues
        ∧ InRowsBy .style (messagePaths "source" "warnings" dashedReport) issues)
      ∧ (∃ issues, Htmlhint.issues dashedReport "error" = .ok issues
        ∧ InOneRow .page "error" issues)
      ∧ ∃ issues, Pyright.issues ["a:1:2 - error: b"] "error" = .ok issues
        ∧ InOneRow .python "error" issues := by
  obtain ⟨hscript, hstyle, hpage, hpython⟩ :=
    ids_of_reports dashedReport ["a:1:2 - error: b"] "error"
  obtain ⟨scripts, hscripts⟩ := exists_eq_ok_of_isOk
    (show (Eslint.issues dashedReport).isOk = true by decide +kernel)
  obtain ⟨styles, hstyles⟩ := exists_eq_ok_of_isOk
    (show (Stylelint.issues dashedReport).isOk = true by decide +kernel)
  obtain ⟨pages, hpages⟩ := exists_eq_ok_of_isOk
    (show (Htmlhint.issues dashedReport "error").isOk = true by decide +kernel)
  obtain ⟨pythons, hpythons⟩ := exists_eq_ok_of_isOk
    (show (Pyright.issues ["a:1:2 - error: b"] "error").isOk = true by decide +kernel)
  have hpaths : messagePaths "filePath" "messages" dashedReport = ["a-1", "a"] := by decide +kernel
  refine ⟨⟨scripts, hscripts, hpaths, ?_⟩, ⟨styles, hstyles, hstyle styles hstyles⟩,
    ⟨pages, hpages, hpage pages hpages⟩, ⟨pythons, hpythons, hpython pythons hpythons⟩⟩
  rw [(hscript scripts hscripts).nodup_iff, hpaths]
  decide

end Report

end LintBroker
