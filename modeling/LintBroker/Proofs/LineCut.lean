/-
  LintBroker.Proofs.LineCut

  One line of Pyright's output, and all the ways in which a diagnostic can be seen in
  it.  A *cut* sets a path and the tail behind it off from what stands before and after
  them.  A line may have many cuts, since a path and a message can look like parts of
  another diagnostic.  The reader goes by the cut with the least before its path and,
  among those, the longest path; a line that has a cut has exactly one such, and a line
  that has none gives no issue: `issues_line`.
-/
import LintBroker.Proofs.PythonReport

namespace LintBroker.Report.Pyright

open LintBroker.Number LintBroker.Text

/-! ## The last tail -/

/-- Of all tails at the end of a text the last one leaves the most before it. -/
theorem exists_last_of_lastTail? {cs : List Char} {t : Tail} (h : lastTail? cs = some t) :
    ∃ front, cs = front ++ t.text ∧ ∀ (other : Tail) (start : List Char), other.WellFormed →
      cs = start ++ other.text → start.length ≤ front.length := by
  induction cs with
  | nil => cases h
  | cons c rest ih =>
    rw [lastTail?] at h
    split at h
    · rename_i t' hrest
      cases h
      obtain ⟨front, heq, hlast⟩ := ih hrest
      refine ⟨c :: front, by rw [heq, List.cons_append], ?_⟩
      intro other start hother hcut
      cases start with
      | nil => exact Nat.zero_le _
      | cons d start =>
        have hrest' : rest = start ++ other.text := (List.cons.inj hcut).2
        exact Nat.succ_le_succ (hlast other start hother hrest')
    · rename_i hrest
      obtain ⟨-, heq⟩ := tail?_eq_some_iff.mp h
      refine ⟨[], heq, ?_⟩
      intro other start hother hcut
      cases start with
      | nil => exact Nat.le_refl 0
      | cons d start =>
        have hrest' : rest = start ++ other.text := (List.cons.inj hcut).2
        exact absurd hrest' (lastTail?_eq_none_iff.mp hrest other start hother)

/-- A tail whose message is in one line is in one line. -/
theorem newline_not_mem_text {t : Tail} (ht : t.WellFormed) (hmessage : '\n' ∉ t.message) :
    '\n' ∉ t.text := by
  intro hmem
  rcases isLineBreak_eq_false_or_mem_message ht hmem with h | h
  · cases h
  · exact hmessage h

/-- The text of a tail tells the tail. -/
theorem text_inj {t t' : Tail} (ht : t.WellFormed) (ht' : t'.WellFormed) (h : t.text = t'.text) :
    t = t' := by
  have hread : tail? t.text = some t := tail?_eq_some_iff.mpr ⟨ht, rfl⟩
  have hread' : tail? t.text = some t' := tail?_eq_some_iff.mpr ⟨ht', h⟩
  exact Option.some.inj (hread.symm.trans hread')

/-! ## Cuts -/

/-- A path and a tail in a line, and what stands before and after them. -/
structure Cut where
  before : List Char
  path : List Char
  tail : Tail
  after : List Char

namespace Cut

/-- The text that is cut. -/
def text (c : Cut) : List Char := c.before ++ (c.path ++ c.tail.text ++ c.after)

/-- A line is cut so: path and message are not empty and hold no newline, the numbers are rows of
    decimal digits and the severity is a word, and a newline or nothing follows. -/
structure Reads (c : Cut) (line : List Char) : Prop where
  text_eq : c.text = line
  path_ne : c.path ≠ []
  path_line : '\n' ∉ c.path
  tail : c.tail.WellFormed
  message_line : '\n' ∉ c.tail.message
  after_stops : ∀ d, c.after.head? = some d → d = '\n'

/-- Less stands before the one cut than before the other, or as much and its path is as long at
    least. -/
def Precedes (c d : Cut) : Prop :=
  c.before.length < d.before.length
    ∨ c.before.length = d.before.length ∧ d.path.length ≤ c.path.length

/-- The cut that precedes every cut of its line. -/
structure Chosen (c : Cut) (line : List Char) : Prop where
  reads : c.Reads line
  first : ∀ d : Cut, d.Reads line → c.Precedes d

variable {c d : Cut} {line front back : List Char}

theorem Reads.newline_not_mem (h : c.Reads line) : '\n' ∉ c.path ++ c.tail.text := by
  intro hmem
  rcases List.mem_append.mp hmem with hmem | hmem
  · exact h.path_line hmem
  · exact newline_not_mem_text h.tail h.message_line hmem

/-- A line has one chosen cut at most. -/
theorem Chosen.unique (hc : c.Chosen line) (hd : d.Chosen line) : c = d := by
  have hbefore : c.before.length = d.before.length := by
    rcases hc.first d hd.reads with h | ⟨h, -⟩
    · rcases hd.first c hc.reads with h' | ⟨h', -⟩ <;> omega
    · exact h
  have hpath : c.path.length = d.path.length := by
    rcases hc.first d hd.reads with h | ⟨-, h⟩
    · omega
    · rcases hd.first c hc.reads with h' | ⟨-, h'⟩ <;> omega
  have htext : c.text = d.text := hc.reads.text_eq.trans hd.reads.text_eq.symm
  obtain ⟨hbefore, hrest⟩ := List.append_inj htext hbefore
  rw [List.append_assoc, List.append_assoc] at hrest
  obtain ⟨hpath, hrest⟩ := List.append_inj hrest hpath
  -- What is left is a tail up to the first newline, and what follows it.
  have hcut : ∀ {e : Cut}, e.Reads line →
      (e.tail.text ++ e.after).takeWhile (· != '\n') = e.tail.text
        ∧ (e.tail.text ++ e.after).dropWhile (· != '\n') = e.after := by
    intro e he
    have hfront : ∀ a ∈ e.tail.text, (a != '\n') = true := by
      intro a ha
      rw [bne_iff_ne]
      rintro rfl
      exact newline_not_mem_text he.tail he.message_line ha
    have hback : ∀ a, e.after.head? = some a → (a != '\n') = false := by
      intro a ha
      rw [he.after_stops a ha]
      rfl
    exact ⟨takeWhile_append_of_stop hfront hback, dropWhile_append_of_stop hfront hback⟩
  have htail : c.tail.text = d.tail.text := by
    rw [← (hcut hc.reads).1, hrest, (hcut hd.reads).1]
  have hafter : c.after = d.after := by
    rw [← (hcut hc.reads).2, hrest, (hcut hd.reads).2]
  cases c
  cases d
  simp only [mk.injEq]
  exact ⟨hbefore, hpath, text_inj hc.reads.tail hd.reads.tail htail, hafter⟩

/-! ## Lines of one stretch -/

/-- Nothing follows a cut of a text without newlines. -/
theorem Reads.eq_append (h : c.Reads line) (hline : '\n' ∉ line) :
    c.after = [] ∧ line = c.before ++ c.path ++ c.tail.text := by
  have hafter : c.after = [] := by
    cases hrest : c.after with
    | nil => rfl
    | cons a rest =>
      have ha : a = '\n' := h.after_stops a (by rw [hrest]; rfl)
      refine absurd ?_ hline
      rw [← h.text_eq, text, hrest, ha]
      simp
  refine ⟨hafter, ?_⟩
  rw [← h.text_eq, text, hafter]
  simp

theorem chosen_of_stretchTail? {t : Tail} (hline : '\n' ∉ line)
    (h : stretchTail? line = some t) : ∃ path, (Cut.mk [] path t []).Chosen line := by
  cases line with
  | nil => cases h
  | cons a rest =>
    obtain ⟨front, hrest, hlast⟩ := exists_last_of_lastTail? h
    have hpath : '\n' ∉ a :: front := by
      intro hmem
      apply hline
      rw [hrest, ← List.cons_append]
      exact List.mem_append_left _ hmem
    have hmessage : '\n' ∉ t.message := by
      intro hmem
      apply hline
      rw [hrest]
      simp [Tail.text, Tail.fromLine, Tail.fromColumn, Tail.fromSeverity, hmem]
    refine ⟨a :: front, ⟨?_, List.cons_ne_nil a front, hpath, (eq_append_of_lastTail? h).1, hmessage,
      fun d hd => by cases hd⟩, ?_⟩
    · simp [text, hrest]
    · intro d hd
      obtain ⟨-, hcut⟩ := hd.eq_append hline
      cases hbefore : d.before with
      | cons b before => exact Or.inl (by simp [hbefore])
      | nil =>
        refine Or.inr ⟨by simp [hbefore], ?_⟩
        cases hdpath : d.path with
        | nil => exact absurd hdpath hd.path_ne
        | cons b start =>
          rw [hbefore, hdpath] at hcut
          have hrest' : rest = start ++ d.tail.text := (List.cons.inj hcut).2
          exact Nat.succ_le_succ (hlast d.tail start hd.tail hrest')

theorem not_reads_of_stretchTail? (hline : '\n' ∉ line) (h : stretchTail? line = none) (c : Cut) :
    ¬ c.Reads line := by
  intro hc
  obtain ⟨-, hcut⟩ := hc.eq_append hline
  have hfront : c.before ++ c.path ≠ [] := List.append_ne_nil_of_right_ne_nil _ hc.path_ne
  cases hstart : c.before ++ c.path with
  | nil => exact hfront hstart
  | cons a start =>
    rw [hstart] at hcut
    subst hcut
    exact lastTail?_eq_none_iff.mp h c.tail start hc.tail rfl

/-! ## Lines of several stretches -/

/-- A cut of a text with a newline is one of the text before it or one of the text behind it. -/
theorem Reads.cases_newline (hfront : '\n' ∉ front) (h : c.Reads (front ++ '\n' :: back)) :
    Reads { c with after := [] } front
      ∨ ∃ before, c.before = front ++ '\n' :: before ∧ Reads { c with before } back := by
  have hmiddle := h.newline_not_mem
  have hne : c.path ++ c.tail.text ≠ [] := List.append_ne_nil_of_left_ne_nil h.path_ne _
  have hcut : c.before ++ (c.path ++ c.tail.text ++ c.after) = front ++ '\n' :: back := h.text_eq
  rcases List.append_eq_append_iff.mp hcut with ⟨middle, hstart, hrest⟩ | ⟨behind, hstart, hrest⟩
  · -- The path begins before the newline; no newline is in it or in the tail.
    refine Or.inl ⟨?_, h.path_ne, h.path_line, h.tail, h.message_line, fun d hd => by cases hd⟩
    have hsame : middle = c.path ++ c.tail.text := by
      rcases List.append_eq_append_iff.mp hrest with ⟨gap, hgap, hafter⟩ | ⟨gap, hgap, hafter⟩
      · cases gap with
        | nil => rw [hgap, List.append_nil]
        | cons a gap =>
          have ha : a = '\n' := h.after_stops a (by rw [hafter]; rfl)
          refine absurd ?_ hfront
          rw [hstart, hgap, ha]
          simp
      · cases gap with
        | nil => rw [hgap, List.append_nil]
        | cons a gap =>
          have ha : '\n' = a := (List.cons.inj hafter).1
          refine absurd ?_ hmiddle
          rw [hgap, ha]
          simp
    rw [hstart, hsame, text]
    simp
  · cases behind with
    | nil =>
      cases hpart : c.path ++ c.tail.text with
      | nil => exact absurd hpart hne
      | cons a rest =>
        rw [hpart] at hrest hmiddle
        have ha : '\n' = a := (List.cons.inj hrest).1
        exact absurd (ha ▸ List.mem_cons_self ..) hmiddle
    | cons a before =>
      obtain ⟨ha, hback⟩ := List.cons.inj hrest
      refine Or.inr ⟨before, by rw [hstart, ha], ?_⟩
      exact ⟨hback.symm, h.path_ne, h.path_line, h.tail, h.message_line, h.after_stops⟩

/-- The chosen cut of the text before a newline is that of the whole. -/
theorem Chosen.append {path : List Char} {t : Tail} (hfront : '\n' ∉ front)
    (h : (Cut.mk [] path t []).Chosen front) (back : List Char) :
    (Cut.mk [] path t ('\n' :: back)).Chosen (front ++ '\n' :: back) := by
  have hreads := h.reads
  constructor
  · refine ⟨?_, hreads.path_ne, hreads.path_line, hreads.tail, hreads.message_line, ?_⟩
    · rw [← hreads.text_eq]
      simp [text]
    · intro d hd
      cases hd
      rfl
  · intro d hd
    rcases hd.cases_newline hfront with hd | ⟨before, hbefore, -⟩
    · have hfirst := h.first _ hd
      exact hfirst
    · refine Or.inl ?_
      rw [hbefore, List.length_append, List.length_cons]
      exact Nat.lt_of_lt_of_le (Nat.succ_pos _) (Nat.le_add_left ..)

/-- Where the text before a newline has no cut, the text behind it decides. -/
theorem Chosen.behind (hfront : '\n' ∉ front) (hnone : ∀ d : Cut, ¬ d.Reads front)
    (h : c.Chosen back) :
    Chosen { c with before := front ++ '\n' :: c.before } (front ++ '\n' :: back) := by
  have hreads := h.reads
  constructor
  · refine ⟨?_, hreads.path_ne, hreads.path_line, hreads.tail, hreads.message_line,
      hreads.after_stops⟩
    rw [← hreads.text_eq]
    simp [text]
  · intro d hd
    rcases hd.cases_newline hfront with hd | ⟨before, hbefore, hd⟩
    · exact absurd hd (hnone _)
    · have hfirst := h.first _ hd
      simp only [Precedes, hbefore, List.length_append, List.length_cons] at hfirst ⊢
      omega

end Cut

/-! ## What a line shows -/

/-- What is read from a line goes by its chosen cut; nothing is read if there is no cut. -/
inductive Settles (line : List Char) : Option Tail → Prop where
  | nothing (h : ∀ c : Cut, ¬ c.Reads line) : Settles line none
  | cut {c : Cut} (h : c.Chosen line) : Settles line (some c.tail)

/-- A text is one stretch without newlines, or such a stretch with a newline and another text behind
    it. -/
theorem stretch_induction {P : List Char → Prop} (plain : ∀ cs, '\n' ∉ cs → P cs)
    (behind : ∀ front back, '\n' ∉ front → P back → P (front ++ '\n' :: back)) (cs : List Char) :
    P cs := by
  induction hn : cs.length using Nat.strongRecOn generalizing cs with
  | ind n ih =>
    by_cases hmem : '\n' ∈ cs
    · obtain ⟨front, back, rfl, hfront⟩ := List.eq_append_cons_of_mem hmem
      refine behind front back hfront (ih back.length ?_ back rfl)
      rw [← hn, List.length_append, List.length_cons]
      omega
    · exact plain cs hmem

theorem diagnostic?_append_newline {front : List Char} (h : '\n' ∉ front) (back : List Char) :
    diagnostic? (front ++ '\n' :: back) = (stretchTail? front).or (diagnostic? back) := by
  unfold diagnostic?
  rw [splitAt_append, splitAt_of_not_mem h, List.singleton_append, List.findSome?_cons]
  cases stretchTail? front with
  | none => rfl
  | some t => rfl

/-- The reader of lines finds the chosen cut.  The induction is on the stretches: the first one that
    has a cut has the chosen one, since whatever is further on has more before it. -/
theorem settles_diagnostic? (line : List Char) : Settles line (diagnostic? line) := by
  induction line using stretch_induction with
  | plain cs hcs =>
    rw [diagnostic?_of_not_mem hcs]
    cases ht : stretchTail? cs with
    | none => exact .nothing (Cut.not_reads_of_stretchTail? hcs ht)
    | some t =>
      obtain ⟨path, hchosen⟩ := Cut.chosen_of_stretchTail? hcs ht
      exact .cut hchosen
  | behind front back hfront ih =>
    rw [diagnostic?_append_newline hfront]
    cases ht : stretchTail? front with
    | some t =>
      obtain ⟨path, hchosen⟩ := Cut.chosen_of_stretchTail? hfront ht
      exact .cut (hchosen.append hfront back)
    | none =>
      have hnone := Cut.not_reads_of_stretchTail? hfront ht
      rw [Option.none_or]
      cases hback : diagnostic? back with
      | none =>
        rw [hback] at ih
        cases ih with
        | nothing h =>
          refine .nothing fun c hc => ?_
          rcases hc.cases_newline hfront with hc | ⟨before, -, hc⟩
          · exact hnone _ hc
          · exact h _ hc
      | some t =>
        rw [hback] at ih
        cases ih with
        | cut h =>
          have hsettles := Settles.cut (h.behind hfront hnone)
          exact hsettles

theorem diagnostic?_eq_none_iff {line : List Char} :
    diagnostic? line = none ↔ ∀ c : Cut, ¬ c.Reads line := by
  have hsettles := settles_diagnostic? line
  constructor
  · intro h
    rw [h] at hsettles
    cases hsettles with
    | nothing h => exact h
  · intro h
    cases hread : diagnostic? line with
    | none => rfl
    | some t =>
      rw [hread] at hsettles
      cases hsettles with
      | cut hchosen => exact absurd hchosen.reads (h _)

theorem diagnostic?_of_chosen {line : List Char} {c : Cut} (h : c.Chosen line) :
    diagnostic? line = some c.tail := by
  have hsettles := settles_diagnostic? line
  cases hread : diagnostic? line with
  | none => exact absurd h.reads (diagnostic?_eq_none_iff.mp hread c)
  | some t =>
    rw [hread] at hsettles
    cases hsettles with
    | cut hchosen => rw [h.unique hchosen]

/-! ## Issues -/

namespace Tail

/-- The issue that a tail stands for. -/
def shown (t : Tail) (path : String) (ordinal : Nat) : Issue where
  id := issueId tag path ordinal
  severity := lower (String.ofList t.severity)
  message := String.ofList t.message
  line := some (decimalRowValue t.line)
  column := some (decimalRowValue t.column)

/-- Both numbers of a tail keep to the limit on digits. -/
def Limited (t : Tail) : Prop := t.line.length ≤ digitLimit ∧ t.column.length ≤ digitLimit

end Tail

theorem issue_of_limited {t : Tail} (h : t.Limited) (path : String) (n : Nat) :
    issue path t n = .ok (t.shown path n) := by
  unfold issue number
  rw [if_neg (Nat.not_lt.mpr h.1), if_neg (Nat.not_lt.mpr h.2)]
  rfl

/-- The first number with too many digits is complained about. -/
theorem issue_of_not_limited {t : Tail} (h : ¬ t.Limited) (path : String) (n : Nat) :
    ∃ digits ∈ [t.line, t.column], digitLimit < digits.length
      ∧ issue path t n = .error (.invalidValue (digitLimitMessage digits.length)) := by
  unfold issue number
  by_cases hline : digitLimit < t.line.length
  · refine ⟨t.line, by simp, hline, ?_⟩
    rw [if_pos hline]
    rfl
  · have hcolumn : digitLimit < t.column.length := by
      rw [← Nat.not_le]
      exact fun hcolumn => h ⟨Nat.not_lt.mp hline, hcolumn⟩
    refine ⟨t.column, by simp, hcolumn, ?_⟩
    rw [if_neg hline, if_pos hcolumn]
    rfl

theorem issues_singleton_of_none {line : String} (h : diagnostic? line.toList = none)
    (path : String) : issues [line] path = .ok [] := by
  unfold issues
  rw [List.filterMap_cons, h]
  rfl

theorem issues_singleton_of_some {line : String} {t : Tail} (h : diagnostic? line.toList = some t)
    (path : String) : issues [line] path = (issue path t 0).map fun i => [i] := by
  unfold issues
  rw [List.filterMap_cons, h]
  show [(t, 0)].mapM _ = _
  simp only [List.mapM_cons, List.mapM_nil]
  cases issue path t 0 with
  | error failure => rfl
  | ok i => rfl

/-- One line of output, whatever text it is.  It gives no issue exactly if it has no cut.  If it has
    one, then exactly one of its cuts precedes all others, and the line gives the one issue that the
    tail of this cut stands for; but a number in it with more digits than the limit fails as a
    value. -/
theorem issues_line (line path : String) :
    (issues [line] path = .ok [] ↔ ∀ c : Cut, ¬ c.Reads line.toList)
      ∧ ((∃ c : Cut, c.Reads line.toList) → ∃! c : Cut, c.Chosen line.toList)
      ∧ ∀ c : Cut, c.Chosen line.toList →
        (c.tail.Limited → issues [line] path = .ok [c.tail.shown path 0])
          ∧ (¬ c.tail.Limited → ∃ digits ∈ [c.tail.line, c.tail.column],
            digitLimit < digits.length
              ∧ issues [line] path
                = .error (.invalidValue (digitLimitMessage digits.length))) := by
  refine ⟨⟨fun h => ?_, fun h => ?_⟩, ?_, fun c hc => ⟨fun hlimited => ?_, fun hlong => ?_⟩⟩
  · rw [← diagnostic?_eq_none_iff]
    cases hread : diagnostic? line.toList with
    | none => rfl
    | some t =>
      rw [issues_singleton_of_some hread] at h
      obtain ⟨i, -, hi⟩ := except_map_eq_ok.mp h
      cases hi
  · exact issues_singleton_of_none (diagnostic?_eq_none_iff.mpr h) path
  · rintro ⟨d, hd⟩
    have hsettles := settles_diagnostic? line.toList
    cases hread : diagnostic? line.toList with
    | none => exact absurd hd (diagnostic?_eq_none_iff.mp hread d)
    | some t =>
      rw [hread] at hsettles
      cases hsettles with
      | @cut c hchosen => exact ⟨c, hchosen, fun e he => he.unique hchosen⟩
  · rw [issues_singleton_of_some (diagnostic?_of_chosen hc), issue_of_limited hlimited]
    rfl
  · obtain ⟨digits, hmem, hdigits, hissue⟩ := issue_of_not_limited hlong path 0
    refine ⟨digits, hmem, hdigits, ?_⟩
    rw [issues_singleton_of_some (diagnostic?_of_chosen hc), hissue]
    rfl

/-- A line of three stretches, of which the one in the middle can be read in two ways. -/
def nestedLine : String := "a note\nx:1:2 - error: y:3:٤ - Hint: z\nb:5:6 - error: c"

/-- The tail that is read from the nested line. -/
def nestedTail : Tail := ⟨['3'], ['٤'], "Hint".toList, ['z']⟩

/-- A cut of the nested line that is not the chosen one. -/
def outerCut : Cut where
  before := "a note\n".toList
  path := ['x']
  tail := ⟨['1'], ['2'], "error".toList, "y:3:٤ - Hint: z".toList⟩
  after := "\nb:5:6 - error: c".toList

/-- The issue that the nested line gives. -/
def nestedIssue : Issue where
  id := "py-m.py-0"
  severity := "hint"
  message := "z"
  line := some 3
  column := some 4

/-- The nested line is read in the second way: nothing before its path is left out, and of its two
    paths the longer one counts. -/
theorem issues_line_nestedLine :
    outerCut.Reads nestedLine.toList
      ∧ issues [nestedLine] "m.py" = .ok [nestedIssue] := by
  have hwhole : outerCut.tail.WellFormed :=
    { line_ne := by decide
      line_decimal := List.all_eq_true.mp (by decide +kernel)
      column_ne := by decide
      column_decimal := List.all_eq_true.mp (by decide +kernel)
      severity_ne := by decide +kernel
      severity_word := List.all_eq_true.mp (by decide +kernel)
      message_ne := by decide +kernel }
  have houter : outerCut.Reads nestedLine.toList :=
    ⟨by decide +kernel, by decide, by decide, hwhole, by decide +kernel,
      fun d hd => (Option.some.inj hd).symm⟩
  obtain ⟨-, hchosen, hissue⟩ := issues_line nestedLine "m.py"
  obtain ⟨c, hc, -⟩ := hchosen ⟨outerCut, houter⟩
  have htail : c.tail = nestedTail := by
    have hread : diagnostic? nestedLine.toList = some nestedTail := by decide +kernel
    exact Option.some.inj ((diagnostic?_of_chosen hc).symm.trans hread)
  have hlimited : c.tail.Limited := by
    rw [htail]
    exact ⟨by decide, by decide⟩
  refine ⟨houter, ((hissue c hc).1 hlimited).trans ?_⟩
  rw [htail]
  decide +kernel

end LintBroker.Report.Pyright
