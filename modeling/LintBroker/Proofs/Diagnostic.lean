/-
  LintBroker.Proofs.Diagnostic

  Diagnostics as Pyright writes them, and what is read from such a line.  The parts
  behind the path are a `Tail`, which is read back exactly (`tail?_eq_some_iff`).  Of
  all places where one begins the last one counts, so a line gives its own tail unless
  its message holds another one: `lastTail?_text`.
-/
import LintBroker.Proofs.Fields
import LintBroker.Report.Pyright

namespace LintBroker.Report.Pyright

open LintBroker.Number LintBroker.Text

/-! ## Pieces -/

theorem skipMark_append (mark rest : List Char) : skipMark mark (mark ++ rest) = some rest := by
  unfold skipMark
  rw [if_pos (List.isPrefixOf_iff_prefix.mpr (List.prefix_append ..)), List.drop_left]

theorem eq_append_of_skipMark {mark cs rest : List Char} (h : skipMark mark cs = some rest) :
    cs = mark ++ rest := by
  unfold skipMark at h
  split at h
  · rename_i hprefix
    cases h
    obtain ⟨after, rfl⟩ := List.isPrefixOf_iff_prefix.mp hprefix
    rw [List.drop_left]
  · cases h

theorem takeSome_append {test : Char → Bool} {front back : List Char} (hne : front ≠ [])
    (hfront : ∀ c ∈ front, test c = true) (hback : ∀ c, back.head? = some c → test c = false) :
    takeSome test (front ++ back) = some (front, back) := by
  unfold takeSome
  rw [takeWhile_append_of_stop hfront hback, dropWhile_append_of_stop hfront hback,
    if_neg (by simpa using hne)]

theorem eq_append_of_takeSome {test : Char → Bool} {cs front back : List Char}
    (h : takeSome test cs = some (front, back)) :
    cs = front ++ back ∧ front ≠ [] ∧ ∀ c ∈ front, test c = true := by
  unfold takeSome at h
  split at h
  · cases h
  · rename_i hne
    cases h
    exact ⟨List.takeWhile_append_dropWhile.symm, by simpa using hne,
      List.all_eq_true.mp List.all_takeWhile⟩

/-! ## Tails -/

namespace Tail

/-- The text of a tail from its severity on. -/
def fromSeverity (t : Tail) : List Char := t.severity ++ ([':', ' '] ++ t.message)

/-- The text of a tail from its column on. -/
def fromColumn (t : Tail) : List Char := t.column ++ ([' ', '-', ' '] ++ t.fromSeverity)

/-- The text of a tail from its line on. -/
def fromLine (t : Tail) : List Char := t.line ++ ([':'] ++ t.fromColumn)

/-- The text of a tail. -/
def text (t : Tail) : List Char := [':'] ++ t.fromLine

/-- The parts of a tail are what their places ask for. -/
structure WellFormed (t : Tail) : Prop where
  line_ne : t.line ≠ []
  line_decimal : ∀ c ∈ t.line, isDecimal c = true
  column_ne : t.column ≠ []
  column_decimal : ∀ c ∈ t.column, isDecimal c = true
  severity_ne : t.severity ≠ []
  severity_word : ∀ c ∈ t.severity, isWordChar c = true
  message_ne : t.message ≠ []

/-- The message is shorter than the text around it. -/
theorem length_message_lt (t : Tail) : t.message.length < t.text.length := by
  simp only [text, fromLine, fromColumn, fromSeverity, List.length_append, List.length_cons,
    List.length_nil]
  omega

end Tail

theorem isDecimal_colon : isDecimal ':' = false := by decide +kernel

theorem isDecimal_space : isDecimal ' ' = false := by decide +kernel

theorem isWordChar_colon : isWordChar ':' = false := by decide +kernel

/-- A tail is read from its text and from no other one. -/
theorem tail?_eq_some_iff {cs : List Char} {t : Tail} :
    tail? cs = some t ↔ t.WellFormed ∧ cs = t.text := by
  constructor
  · intro h
    simp only [tail?, Option.bind_eq_bind, Option.bind_eq_some_iff] at h
    obtain ⟨cs₁, h₁, ⟨line, cs₂⟩, h₂, cs₃, h₃, ⟨column, cs₄⟩, h₄, cs₅, h₅, ⟨severity, cs₆⟩, h₆,
      message, h₇, h⟩ := h
    split at h
    · cases h
    · rename_i hmessage
      cases h
      obtain ⟨hcut₁, hline, hline'⟩ := eq_append_of_takeSome h₂
      obtain ⟨hcut₂, hcolumn, hcolumn'⟩ := eq_append_of_takeSome h₄
      obtain ⟨hcut₃, hseverity, hseverity'⟩ := eq_append_of_takeSome h₆
      refine ⟨⟨hline, hline', hcolumn, hcolumn', hseverity, hseverity', ?_⟩, ?_⟩
      · simpa using hmessage
      · have h₃' : cs₂ = [':'] ++ cs₃ := eq_append_of_skipMark h₃
        have h₅' : cs₄ = [' ', '-', ' '] ++ cs₅ := eq_append_of_skipMark h₅
        have h₇' : cs₆ = [':', ' '] ++ message := eq_append_of_skipMark h₇
        rw [eq_append_of_skipMark h₁, hcut₁, h₃', hcut₂, h₅', hcut₃, h₇']
        rfl
  · rintro ⟨ht, rfl⟩
    have hline : takeSome isDecimal t.fromLine = some (t.line, [':'] ++ t.fromColumn) :=
      takeSome_append ht.line_ne ht.line_decimal (stop_cons isDecimal_colon _)
    have hcolumn : takeSome isDecimal t.fromColumn
        = some (t.column, [' ', '-', ' '] ++ t.fromSeverity) :=
      takeSome_append ht.column_ne ht.column_decimal (stop_cons isDecimal_space _)
    have hseverity : takeSome isWordChar t.fromSeverity
        = some (t.severity, [':', ' '] ++ t.message) :=
      takeSome_append ht.severity_ne ht.severity_word (stop_cons isWordChar_colon _)
    simp only [tail?, Tail.text, Option.bind_eq_bind, skipMark_append, Option.bind_some, hline,
      hcolumn, hseverity]
    rw [if_neg (by simpa using ht.message_ne)]
    rfl

/-! ## The last tail -/

/-- No tail begins with another character than a colon. -/
theorem tail?_cons_of_ne {c : Char} {rest : List Char} (h : c ≠ ':') :
    tail? (c :: rest) = none := by
  rw [Option.eq_none_iff_forall_not_mem]
  intro t ht
  obtain ⟨-, heq⟩ := tail?_eq_some_iff.mp ht
  cases heq
  exact h rfl

/-- A tail further on counts whatever stands before it. -/
theorem lastTail?_append_of_eq_some {front back : List Char} {t : Tail}
    (h : lastTail? back = some t) : lastTail? (front ++ back) = some t := by
  induction front with
  | nil => exact h
  | cons c rest ih =>
    rw [List.cons_append, lastTail?, ih]

/-- A place where no tail begins does not count. -/
theorem lastTail?_cons_of_eq_none {c : Char} {rest : List Char} (h : tail? (c :: rest) = none) :
    lastTail? (c :: rest) = lastTail? rest := by
  rw [lastTail?, h]
  cases lastTail? rest with
  | none => rfl
  | some t => rfl

theorem lastTail?_append_of_no_colon {front : List Char} (h : ∀ c ∈ front, c ≠ ':')
    (back : List Char) : lastTail? (front ++ back) = lastTail? back := by
  induction front with
  | nil => rfl
  | cons c rest ih =>
    have hc : tail? (c :: (rest ++ back)) = none := tail?_cons_of_ne (h c (List.mem_cons_self ..))
    rw [List.cons_append, lastTail?_cons_of_eq_none hc]
    exact ih fun d hd => h d (List.mem_cons_of_mem _ hd)

/-- No tail begins with a colon behind whose digits, if there are any, no other colon follows. -/
theorem tail?_colon_append {digits rest : List Char} {c : Char}
    (hdigits : ∀ d ∈ digits, isDecimal d = true) (hc : isDecimal c = false) (hne : c ≠ ':') :
    tail? (':' :: (digits ++ c :: rest)) = none := by
  rw [Option.eq_none_iff_forall_not_mem]
  intro t ht
  obtain ⟨hwell, heq⟩ := tail?_eq_some_iff.mp ht
  have hbody : digits ++ c :: rest = t.fromLine := (List.cons.inj heq).2
  have hrest : t.fromLine.dropWhile isDecimal = c :: rest := by
    rw [← hbody, dropWhile_append_of_stop hdigits (stop_cons hc _)]
  have hcolon : t.fromLine.dropWhile isDecimal = ':' :: t.fromColumn :=
    dropWhile_append_of_stop hwell.line_decimal (stop_cons isDecimal_colon _)
  exact hne (List.cons.inj (hrest.symm.trans hcolon)).1

/-- The last tail of a text is at its end. -/
theorem eq_append_of_lastTail? {cs : List Char} {t : Tail} (h : lastTail? cs = some t) :
    t.WellFormed ∧ ∃ before, cs = before ++ t.text := by
  induction cs with
  | nil => cases h
  | cons c rest ih =>
    rw [lastTail?] at h
    split at h
    · rename_i t' hrest
      cases h
      obtain ⟨ht, before, heq⟩ := ih hrest
      exact ⟨ht, c :: before, by rw [heq, List.cons_append]⟩
    · obtain ⟨ht, heq⟩ := tail?_eq_some_iff.mp h
      exact ⟨ht, [], heq⟩

/-- A colon is in no row of characters of a class without it. -/
theorem ne_colon_of_class {test : Char → Bool} {cs : List Char} (hcolon : test ':' = false)
    (h : ∀ c ∈ cs, test c = true) : ∀ c ∈ cs, c ≠ ':' := by
  rintro c hc rfl
  have := h ':' hc
  rw [hcolon] at this
  cases this

/-- From the text of a tail the last tail in its message is read, and without one the tail
    itself. -/
theorem lastTail?_text {t : Tail} (ht : t.WellFormed) :
    lastTail? t.text = some ((lastTail? t.message).getD t) := by
  have hline := ne_colon_of_class isDecimal_colon ht.line_decimal
  have hcolumn := ne_colon_of_class isDecimal_colon ht.column_decimal
  have hseverity := ne_colon_of_class isWordChar_colon ht.severity_word
  have hspace : ∀ c ∈ [' '], c ≠ ':' := by simp
  have hdash : ∀ c ∈ [' ', '-', ' '], c ≠ ':' := by simp
  have hfromSeverity : lastTail? t.fromSeverity = lastTail? t.message := by
    have hcolon : tail? (':' :: ([] ++ ' ' :: t.message)) = none :=
      tail?_colon_append (fun _ h => by cases h) isDecimal_space (by decide)
    rw [Tail.fromSeverity, lastTail?_append_of_no_colon hseverity]
    calc lastTail? (':' :: ([] ++ ' ' :: t.message))
        = lastTail? ([' '] ++ t.message) := lastTail?_cons_of_eq_none hcolon
      _ = lastTail? t.message := lastTail?_append_of_no_colon hspace _
  have hfromColumn : lastTail? t.fromColumn = lastTail? t.message := by
    rw [Tail.fromColumn, lastTail?_append_of_no_colon hcolumn, lastTail?_append_of_no_colon hdash,
      hfromSeverity]
  have hfromLine : lastTail? t.fromLine = lastTail? t.message := by
    have hcolon : tail? (':' :: t.fromColumn) = none :=
      tail?_colon_append ht.column_decimal isDecimal_space (by decide)
    rw [Tail.fromLine, lastTail?_append_of_no_colon hline, List.singleton_append,
      lastTail?_cons_of_eq_none hcolon, hfromColumn]
  have hself : tail? (':' :: t.fromLine) = some t := tail?_eq_some_iff.mpr ⟨ht, rfl⟩
  rw [Tail.text, List.singleton_append, lastTail?, hfromLine, hself]
  cases lastTail? t.message with
  | none => rfl
  | some t' => rfl

/-- A text without tails: no end of it is the text of one. -/
theorem lastTail?_eq_none_iff {cs : List Char} : lastTail? cs = none ↔
    ∀ (t : Tail) (before : List Char), t.WellFormed → cs ≠ before ++ t.text := by
  constructor
  · rintro h t before ht rfl
    rw [lastTail?_append_of_eq_some (lastTail?_text ht)] at h
    cases h
  · intro h
    rw [Option.eq_none_iff_forall_not_mem]
    intro t ht
    obtain ⟨hwell, before, heq⟩ := eq_append_of_lastTail? ht
    exact h t before hwell heq

/-- A tail that is read from a text has a shorter message. -/
theorem length_message_lt_of_lastTail? {cs : List Char} {t : Tail} (h : lastTail? cs = some t) :
    t.message.length < cs.length := by
  obtain ⟨-, before, rfl⟩ := eq_append_of_lastTail? h
  have := t.length_message_lt
  rw [List.length_append]
  omega

/-! ## Lines -/

/-- A line is one stretch. -/
theorem diagnostic?_of_not_mem {line : List Char} (h : '\n' ∉ line) :
    diagnostic? line = stretchTail? line := by
  unfold diagnostic?
  rw [splitAt_of_not_mem h, List.findSome?_cons]
  cases stretchTail? line with
  | none => rfl
  | some t => rfl

/-- What a line shows is at its end, behind at least one character. -/
theorem eq_append_of_diagnostic? {line : List Char} {t : Tail} (hline : '\n' ∉ line)
    (h : diagnostic? line = some t) : t.WellFormed ∧ ∃ path, path ≠ [] ∧ line = path ++ t.text := by
  rw [diagnostic?_of_not_mem hline] at h
  cases line with
  | nil => cases h
  | cons c rest =>
    obtain ⟨ht, before, heq⟩ := eq_append_of_lastTail? h
    exact ⟨ht, c :: before, List.cons_ne_nil _ _, by rw [heq, List.cons_append]⟩

/-- A line shows the last tail in the message of its diagnostic, and without one the diagnostic
    itself. -/
theorem diagnostic?_append_text {path : List Char} {t : Tail} (hpath : path ≠ [])
    (ht : t.WellFormed) (hline : '\n' ∉ path ++ t.text) :
    diagnostic? (path ++ t.text) = some ((lastTail? t.message).getD t) := by
  rw [diagnostic?_of_not_mem hline]
  cases path with
  | nil => exact absurd rfl hpath
  | cons c rest => exact lastTail?_append_of_eq_some (lastTail?_text ht)

end LintBroker.Report.Pyright
