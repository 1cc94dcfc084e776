/-
  LintBroker.Proofs.Fields

  Positions in a report.  A text *writes* a number when it is a row of decimal digits,
  within the limit on their count, with outer blanks around it.  Such a text is always
  taken for digits, but not every text that is taken for digits writes a number: a
  digit sign, an information separator beside the digits, or too many of them make it
  `Unreadable`, and reading it is a failure.
-/
import LintBroker.Report.Fields
import LintBroker.Text.Lines
import LintBroker.Text.Word
import Mathlib.Data.List.Basic

namespace LintBroker

open LintBroker.Number LintBroker.Text

/-! ## Cutting at a class of characters -/

section Cut

variable {α : Type} {test : α → Bool} {front back : List α}

/-- A cut at a class gives back the front, when the class ends with it. -/
theorem takeWhile_append_of_stop (hfront : ∀ a ∈ front, test a = true)
    (hback : ∀ a, back.head? = some a → test a = false) :
    (front ++ back).takeWhile test = front := by
  rw [List.takeWhile_append_of_pos hfront]
  cases back with
  | nil => simp
  | cons a rest => simp [hback a rfl]

theorem dropWhile_append_of_stop (hfront : ∀ a ∈ front, test a = true)
    (hback : ∀ a, back.head? = some a → test a = false) :
    (front ++ back).dropWhile test = back := by
  rw [List.dropWhile_append_of_pos hfront]
  cases back with
  | nil => rfl
  | cons a rest => simp [hback a rfl]

/-- A class ends with a character that is not of it. -/
theorem stop_cons {a : α} (ha : test a = false) (rest : List α) :
    ∀ b, (a :: rest).head? = some b → test b = false := by
  intro b hb
  cases hb
  exact ha

end Cut

/-- The first of a list of some members has the property that all members have. -/
theorem of_head?_append {α : Type} {test : α → Prop} {front back : List α} (hne : front ≠ [])
    (hfront : ∀ a ∈ front, test a) {a : α} (h : (front ++ back).head? = some a) : test a := by
  cases front with
  | nil => exact absurd rfl hne
  | cons b rest =>
    cases h
    exact hfront a (List.mem_cons_self ..)

namespace Report

/-! ## Blanks and digits -/

/-- No decimal digit is a blank. -/
theorem isDecimal_eq_false_of_isBlank {c : Char} (h : isBlank c = true) : isDecimal c = false := by
  have hapart : ∀ span ∈ blankSpans, ∀ z ∈ decimalZeros,
      span.last < z ∨ z + 10 ≤ span.first := by
    decide +kernel
  obtain ⟨span, hspan, hfirst, hlast⟩ := Span.exists_of_covers h
  unfold isDecimal decimalValue?
  rw [Option.isSome_map, ← Bool.not_eq_true, List.find?_isSome]
  rintro ⟨z, hz, hin⟩
  simp only [Bool.and_eq_true, decide_eq_true_eq] at hin
  have := hapart span hspan z hz
  omega

theorem isBlank_of_isOuterBlank {c : Char} (h : isOuterBlank c = true) : isBlank c = true := by
  unfold isOuterBlank at h
  exact (Bool.and_eq_true_iff.mp h).1

theorem isBlank_eq_false_of_isDecimal {c : Char} (h : isDecimal c = true) : isBlank c = false := by
  rw [← Bool.not_eq_true]
  intro hblank
  rw [isDecimal_eq_false_of_isBlank hblank] at h
  cases h

theorem isOuterBlank_eq_false_of_isDecimal {c : Char} (h : isDecimal c = true) :
    isOuterBlank c = false := by
  unfold isOuterBlank
  rw [isBlank_eq_false_of_isDecimal h, Bool.false_and]

/-- Every line boundary is a blank. -/
theorem isBlank_of_isLineBreak {c : Char} (h : isLineBreak c = true) : isBlank c = true := by
  have hbreaks : ∀ n ∈ [0x0a, 0x0b, 0x0c, 0x0d, 0x1c, 0x1d, 0x1e, 0x85, 0x2028, 0x2029],
      Span.covers blankSpans n = true := by
    decide +kernel
  exact hbreaks c.toNat (List.contains_iff_mem.mp h)

/-- No line boundary is a word character. -/
theorem isLineBreak_eq_false_of_isWordChar {c : Char} (h : isWordChar c = true) :
    isLineBreak c = false := by
  have hbreaks : ∀ n ∈ [0x0a, 0x0b, 0x0c, 0x0d, 0x1c, 0x1d, 0x1e, 0x85, 0x2028, 0x2029],
      Span.covers wordSpans n = false := by
    decide +kernel
  rw [← Bool.not_eq_true]
  intro hbreak
  rw [isWordChar, hbreaks c.toNat (List.contains_iff_mem.mp hbreak)] at h
  cases h

theorem isLineBreak_eq_false_of_isDecimal {c : Char} (h : isDecimal c = true) :
    isLineBreak c = false := by
  rw [← Bool.not_eq_true]
  intro hbreak
  rw [isDecimal_eq_false_of_isBlank (isBlank_of_isLineBreak hbreak)] at h
  cases h

/-! ## Decimal writing -/

/-- The value of an ASCII digit. -/
theorem decimalValue?_of_isDigit {c : Char} (h : c.isDigit = true) :
    decimalValue? c = some (c.toNat - '0'.toNat) := by
  obtain ⟨hlow, hhigh⟩ := Char.isDigit_iff_toNat.mp h
  have hfirst : (decide (0x30 ≤ c.toNat) && decide (c.toNat < 0x30 + 10)) = true := by
    rw [Bool.and_eq_true, decide_eq_true_eq, decide_eq_true_eq]
    exact ⟨hlow, Nat.lt_succ_of_le hhigh⟩
  have hzeros : decimalZeros = 0x30 :: decimalZeros.tail := rfl
  unfold decimalValue?
  rw [hzeros]
  simp only [List.find?_cons, hfirst]
  rfl

theorem isDecimal_of_mem_natChars {n : Nat} {c : Char} (h : c ∈ natChars n) :
    isDecimal c = true := by
  unfold isDecimal
  rw [decimalValue?_of_isDigit (Nat.isDigit_of_mem_toDigits (by decide) (by decide) h)]
  rfl

theorem natChars_ne_nil (n : Nat) : natChars n ≠ [] := Nat.toDigits_ne_nil

/-- The digits of a number write it. -/
theorem decimalRowValue_natChars (n : Nat) : decimalRowValue (natChars n) = n := by
  have hvalue : ∀ c ∈ natChars n, ∀ sofar : Nat,
      10 * sofar + (decimalValue? c).getD 0 = 10 * sofar + (c.toNat - '0'.toNat) := by
    intro c hc sofar
    rw [decimalValue?_of_isDigit (Nat.isDigit_of_mem_toDigits (by decide) (by decide) hc)]
    rfl
  calc decimalRowValue (natChars n) = Nat.ofDigitChars 10 (natChars n) 0 :=
        List.foldl_ext _ _ 0 fun sofar c hc => hvalue c hc sofar
    _ = n := Nat.ofDigitChars_ten_toDigits

/-! ## Written numbers -/

/-- A text writes a number: decimal digits, as many as the limit allows, between outer blanks. -/
inductive WritesNumber : List Char → Int → Prop where
  | mk {before digits after : List Char} (hbefore : ∀ c ∈ before, isOuterBlank c = true)
      (hne : digits ≠ []) (hdigits : ∀ c ∈ digits, isDecimal c = true)
      (hlimit : digits.length ≤ digitLimit) (hafter : ∀ c ∈ after, isOuterBlank c = true) :
      WritesNumber (before ++ (digits ++ after)) (decimalRowValue digits)

theorem numberOf_eq_ok_iff {cs : List Char} {n : Int} :
    numberOf cs = .ok n ↔ WritesNumber cs n := by
  constructor
  · intro h
    simp only [numberOf] at h
    split at h
    · cases h
    · rename_i hlimit
      split at h
      · rename_i hshape
        cases h
        have hbefore : ∀ c ∈ cs.takeWhile isOuterBlank, isOuterBlank c = true :=
          List.all_eq_true.mp List.all_takeWhile
        have hcut := WritesNumber.mk hbefore hshape.1 (List.all_eq_true.mp List.all_takeWhile)
          (Nat.not_lt.mp hlimit) (List.all_eq_true.mp hshape.2)
        rw [List.takeWhile_append_dropWhile, List.takeWhile_append_dropWhile] at hcut
        exact hcut
      · cases h
  · rintro ⟨hbefore, hne, hdigits, hlimit, hafter⟩
    rename_i before digits after
    have hbody : (before ++ (digits ++ after)).dropWhile isOuterBlank = digits ++ after :=
      dropWhile_append_of_stop hbefore fun c hc =>
        isOuterBlank_eq_false_of_isDecimal (of_head?_append hne hdigits hc)
    have hstop : ∀ c, after.head? = some c → isDecimal c = false := fun c hc =>
      isDecimal_eq_false_of_isBlank (isBlank_of_isOuterBlank (hafter c (List.mem_of_mem_head? hc)))
    unfold numberOf
    simp only [hbody, takeWhile_append_of_stop hdigits hstop,
      dropWhile_append_of_stop hdigits hstop]
    rw [if_neg (Nat.not_lt.mpr hlimit), if_pos ⟨hne, List.all_eq_true.mpr hafter⟩]

/-- A failure to read a number is a complaint about a value. -/
theorem invalidValue_of_numberOf {cs : List Char} {failure : Failure}
    (h : numberOf cs = .error failure) : ∃ complaint, failure = .invalidValue complaint := by
  simp only [numberOf] at h
  split at h
  · cases h
    exact ⟨_, rfl⟩
  · split at h
    · cases h
    · cases h
      exact ⟨_, rfl⟩

/-- A text that writes a number is taken for digits. -/
theorem WritesNumber.isDigitText {cs : List Char} {n : Int} (h : WritesNumber cs n) :
    isDigitText cs = true := by
  obtain ⟨hbefore, hne, hdigits, -, hafter⟩ := h
  rename_i before digits after
  have hfront : (before ++ (digits ++ after)).dropWhile isBlank = digits ++ after :=
    dropWhile_append_of_stop (fun c hc => isBlank_of_isOuterBlank (hbefore c hc)) fun c hc =>
      isBlank_eq_false_of_isDecimal (of_head?_append hne hdigits hc)
  have hback : (after.reverse ++ digits.reverse).dropWhile isBlank = digits.reverse := by
    apply dropWhile_append_of_stop
    · intro c hc
      exact isBlank_of_isOuterBlank (hafter c (List.mem_reverse.mp hc))
    · intro c hc
      have hmem : c ∈ digits := List.mem_reverse.mp (List.mem_of_mem_head? hc)
      exact isBlank_eq_false_of_isDecimal (hdigits c hmem)
  have hstrip : stripChars (before ++ (digits ++ after)) = digits := by
    rw [stripChars, hfront, List.reverse_append, hback, List.reverse_reverse]
  unfold Report.isDigitText
  rw [hstrip, Bool.and_eq_true, List.all_eq_true]
  refine ⟨by simpa using hne, ?_⟩
  intro c hc
  rw [isDigit, hdigits c hc, Bool.true_or]

/-! ## Positions -/

/-- The position that a value shows: a number, or the number that a text writes.  Any other value
    shows none, unless it is a text that is taken for digits. -/
inductive ShowsPosition : Datum → Option Int → Prop where
  | number (n : Int) : ShowsPosition (.int n) (some n)
  | written {s : String} {n : Int} (h : WritesNumber s.toList n) : ShowsPosition (.text s) (some n)
  | nothing {value : Datum} (hint : ∀ n, value ≠ .int n)
      (htext : ∀ s, value = .text s → isDigitText s.toList = false) : ShowsPosition value none

/-- A text that is taken for digits and writes no number. -/
def Unreadable (value : Datum) : Prop :=
  ∃ s, value = .text s ∧ isDigitText s.toList = true ∧ ∀ n, ¬ WritesNumber s.toList n

theorem showsPosition_of_optionalInt {value : Datum} {position : Option Int}
    (h : optionalInt value = .ok position) : ShowsPosition value position := by
  cases value with
  | int n =>
    cases h
    exact .number n
  | text s =>
    by_cases hdigits : isDigitText s.toList
    · rw [optionalInt, if_pos hdigits] at h
      cases hread : numberOf s.toList with
      | error failure =>
        rw [hread] at h
        cases h
      | ok n =>
        rw [hread] at h
        cases h
        exact .written (numberOf_eq_ok_iff.mp hread)
    · rw [optionalInt, if_neg hdigits] at h
      cases h
      refine .nothing (fun n hn => by cases hn) fun s' hs' => ?_
      cases hs'
      simpa using hdigits
  | _ =>
    cases h
    exact .nothing (fun n hn => by cases hn) fun s hs => by cases hs

/-- Reading a position fails for unreadable texts and for no other value. -/
theorem optionalInt_isOk_iff {value : Datum} :
    (∃ position, optionalInt value = .ok position) ↔ ¬ Unreadable value := by
  cases value with
  | text s =>
    unfold Unreadable
    by_cases hdigits : isDigitText s.toList
    · rw [optionalInt, if_pos hdigits]
      constructor
      · rintro ⟨position, h⟩ ⟨s', hs', -, hnone⟩
        cases hs'
        cases hread : numberOf s.toList with
        | error failure =>
          rw [hread] at h
          cases h
        | ok n => exact hnone n (numberOf_eq_ok_iff.mp hread)
      · intro h
        cases hread : numberOf s.toList with
        | error failure =>
          refine absurd ⟨s, rfl, hdigits, fun n hn => ?_⟩ h
          rw [numberOf_eq_ok_iff.mpr hn] at hread
          cases hread
        | ok n => exact ⟨some n, rfl⟩
    · rw [optionalInt, if_neg hdigits]
      refine ⟨fun _ => ?_, fun _ => ⟨none, rfl⟩⟩
      rintro ⟨s', hs', hdigits', -⟩
      cases hs'
      exact hdigits hdigits'
  | _ => simp [optionalInt, Unreadable]

theorem invalidValue_of_optionalInt {value : Datum} {failure : Failure}
    (h : optionalInt value = .error failure) : ∃ complaint, failure = .invalidValue complaint := by
  unfold optionalInt at h
  split at h
  · cases h
  · split at h
    · rename_i s _
      cases hread : numberOf s.toList with
      | error failure' =>
        rw [hread] at h
        cases h
        exact invalidValue_of_numberOf hread
      | ok n =>
        rw [hread] at h
        cases h
    · cases h
  · cases h

end Report

end LintBroker
