/-
  LintBroker.Proofs.TomlDigits

  Where a document breaks the limit on digits.  Every step of the reader leaves an end of
  its text, and it fails for too many digits only if they stand in that text, in a row
  (`Leaves`).  So does the reader as a whole: `longRow_of_read`.  A document with one
  member shows that it does fail for every count beyond the limit: `read_replicate`.
-/
import LintBroker.Toml.Document
import Mathlib.Data.List.Basic

namespace LintBroker.Toml

open LintBroker.Number

/-! ## Rows of digits in a text -/

/-- A row of so many digits, more than the limit, stands in a text; low lines may stand among
    them. -/
def LongRow (count : Nat) (cs : List Char) : Prop :=
  digitLimit < count ∧ ∃ row, row <:+: cs ∧ (row.filter (· != '_')).length = count
    ∧ ∀ c ∈ row, c.isDigit = true ∨ c = '_'

theorem LongRow.mono {count : Nat} {cs text : List Char} (h : cs <:+ text)
    (hrow : LongRow count cs) : LongRow count text := by
  obtain ⟨hlimit, row, hin, hdigits⟩ := hrow
  exact ⟨hlimit, row, hin.trans h.isInfix, hdigits⟩

/-- A step leaves an end of its text, and fails for too many digits only if they stand in it. -/
inductive Leaves {α : Type} (cs : List Char) : Step α → Prop where
  | ok {a : α} {rest : List Char} (h : rest <:+ cs) : Leaves cs (.ok (a, rest))
  | malformed : Leaves cs (.error .malformed)
  | tooManyDigits {count : Nat} (h : LongRow count cs) : Leaves cs (.error (.tooManyDigits count))

section Leaves

variable {α β : Type} {cs text : List Char} {step : Step α}

/-- A step on an end of a text is one on the text. -/
theorem Leaves.mono (h : cs <:+ text) (hstep : Leaves cs step) : Leaves text step := by
  cases hstep with
  | ok hrest => exact .ok (hrest.trans h)
  | malformed => exact .malformed
  | tooManyDigits hrow => exact .tooManyDigits (hrow.mono h)

theorem Leaves.map {f : α × List Char → β × List Char} (hf : ∀ p, (f p).2 <:+ p.2)
    (hstep : Leaves cs step) : Leaves cs (step.map f) := by
  cases hstep with
  | @ok a rest hrest => exact .ok ((hf (a, rest)).trans hrest)
  | malformed => exact .malformed
  | tooManyDigits hrow => exact .tooManyDigits hrow

/-- A step that only makes another value of what was read. -/
theorem Leaves.mapValue {f : α × List Char → β} (hstep : Leaves cs step) :
    Leaves cs (step.map fun p => (f p, p.2)) :=
  hstep.map fun p => List.suffix_refl p.2

end Leaves

variable {cs rest : List Char}

theorem skipBlanks_suffix (cs : List Char) : skipBlanks cs <:+ cs := List.dropWhile_suffix _

/-! ## Comments and gaps -/

/-- What follows a comment is an end of the text, and a comment has no number. -/
theorem skipComment_cases (cs : List Char) :
    (∃ rest, skipComment cs = .ok rest ∧ rest <:+ cs) ∨ skipComment cs = .error .malformed := by
  unfold skipComment
  split
  · rename_i rest
    split
    · exact Or.inr rfl
    · exact Or.inl ⟨_, rfl, (List.dropWhile_suffix _).trans (List.suffix_cons ..)⟩
  · exact Or.inl ⟨_, rfl, List.suffix_refl _⟩

theorem skipGaps_cases (fuel : Nat) (cs : List Char) :
    (∃ rest, skipGaps fuel cs = .ok rest ∧ rest <:+ cs) ∨ skipGaps fuel cs = .error .malformed := by
  induction fuel generalizing cs with
  | zero => exact Or.inl ⟨_, rfl, List.dropWhile_suffix _⟩
  | succ fuel ih =>
    have hgap : cs.dropWhile isTomlGap <:+ cs := List.dropWhile_suffix _
    unfold skipGaps
    split
    · rename_i rest hdrop
      rw [hdrop] at hgap
      rcases skipComment_cases ('#' :: rest) with ⟨after, hafter, hsuffix⟩ | hbad
      · rw [hafter]
        rcases ih after with ⟨others, hothers, hrest⟩ | hbad
        · exact Or.inl ⟨others, hothers, hrest.trans (hsuffix.trans hgap)⟩
        · exact Or.inr hbad
      · rw [hbad]
        exact Or.inr rfl
    · exact Or.inl ⟨_, rfl, hgap⟩

/-! ## Strings -/

theorem leaves_numberedChar (count : Nat) (cs : List Char) : Leaves cs (numberedChar count cs) := by
  unfold numberedChar
  split
  · exact .malformed
  · split
    · exact .ok (List.drop_suffix ..)
    · exact .malformed

theorem leaves_escape (severalLines : Bool) (cs : List Char) :
    Leaves cs (escape severalLines cs) := by
  cases cs with
  | nil => exact .malformed
  | cons c rest =>
    have hrest : rest <:+ c :: rest := List.suffix_cons ..
    simp only [escape]
    split
    · exact .ok ((List.dropWhile_suffix _).trans hrest)
    split
    · split
      · exact .ok List.nil_suffix
      · rename_i others hskip
        have hblanks := skipBlanks_suffix rest
        rw [hskip] at hblanks
        exact .ok ((List.dropWhile_suffix _).trans
          ((List.suffix_cons ..).trans (hblanks.trans hrest)))
      · exact .malformed
    split
    · exact (leaves_numberedChar 4 rest).mapValue.mono hrest
    split
    · exact (leaves_numberedChar 8 rest).mapValue.mono hrest
    split
    · exact .ok hrest
    · exact .malformed

theorem leaves_basicBody (severalLines : Bool) (fuel : Nat) (cs : List Char) :
    Leaves cs (basicBody severalLines fuel cs) := by
  induction fuel generalizing cs with
  | zero => exact .malformed
  | succ fuel ih =>
    unfold basicBody
    split
    · exact .malformed
    -- One quote ends a string on one line, three of them one on several lines.
    · split
      · exact .ok (List.suffix_cons ..)
      · split
        · exact .ok (List.suffix_append ['"', '"', '"'] _)
        · exact (ih _).mapValue.mono (List.suffix_cons ..)
    · rename_i rest
      have hescape := leaves_escape severalLines rest
      have hrest : rest <:+ '\\' :: rest := List.suffix_cons ..
      generalize escape severalLines rest = step at hescape ⊢
      cases hescape with
      | ok hafter => exact (ih _).mapValue.mono (hafter.trans hrest)
      | malformed => exact .malformed
      | tooManyDigits hrow => exact .tooManyDigits (hrow.mono hrest)
    · rename_i c rest _ _
      by_cases hbad : (if severalLines then isIllegalInLines c else isIllegal c) = true
      · rw [if_pos hbad]
        exact .malformed
      · rw [if_neg hbad]
        exact (ih _).mapValue.mono (List.suffix_cons ..)

theorem leaves_literalString (cs : List Char) : Leaves cs (literalString cs) := by
  have hquote : cs.dropWhile (· != '\'') <:+ cs := List.dropWhile_suffix _
  simp only [literalString]
  split
  · exact .malformed
  · rename_i hdrop
    rw [hdrop] at hquote
    split
    · exact .malformed
    · exact .ok ((List.suffix_cons ..).trans hquote)

theorem suffix_of_untilTriple {cs body rest : List Char} (h : untilTriple cs = some (body, rest)) :
    rest <:+ cs := by
  induction cs using untilTriple.induct generalizing body with
  | case1 => cases h
  | case2 others =>
    rw [untilTriple] at h
    cases h
    exact (List.suffix_cons ..).trans ((List.suffix_cons ..).trans (List.suffix_cons ..))
  | case3 c others hnot ih =>
    rw [untilTriple] at h
    · obtain ⟨p, hp, heq⟩ := Option.map_eq_some_iff.mp h
      cases heq
      exact (ih hp).trans (List.suffix_cons ..)
    · exact hnot

theorem skipFirstLineEnd_suffix (cs : List Char) : skipFirstLineEnd cs <:+ cs := by
  unfold skipFirstLineEnd
  split
  · exact List.suffix_cons ..
  · exact List.suffix_refl _

theorem extraQuotes_suffix (mark : Char) (body cs : List Char) :
    (extraQuotes mark body cs).2 <:+ cs := by
  unfold extraQuotes
  split
  · split
    · split
      · exact (List.suffix_cons ..).trans (List.suffix_cons ..)
      · exact List.suffix_cons ..
    · exact List.suffix_refl _
  · split
    · exact List.nil_suffix
    · exact List.suffix_refl _
  · exact List.suffix_refl _

theorem leaves_basicLines (cs : List Char) : Leaves cs (basicLines cs) :=
  ((leaves_basicBody ..).map fun _ => extraQuotes_suffix ..).mono (skipFirstLineEnd_suffix cs)

theorem leaves_literalLines (cs : List Char) : Leaves cs (literalLines cs) := by
  unfold literalLines
  split
  · exact .malformed
  · rename_i body rest huntil
    split
    · exact .malformed
    · exact .ok ((extraQuotes_suffix ..).trans
        ((suffix_of_untilTriple huntil).trans (skipFirstLineEnd_suffix cs)))

/-! ## Keys -/

theorem leaves_keyPart (cs : List Char) : Leaves cs (keyPart cs) := by
  unfold keyPart
  split
  · exact (leaves_literalString _).mapValue.mono (List.suffix_cons ..)
  · exact (leaves_basicBody ..).mapValue.mono (List.suffix_cons ..)
  · simp only
    split
    · exact .malformed
    · exact .ok (List.dropWhile_suffix _)

theorem leaves_keyUpTo (fuel : Nat) (cs : List Char) : Leaves cs (keyUpTo fuel cs) := by
  induction fuel generalizing cs with
  | zero => exact .malformed
  | succ fuel ih =>
    have hpart := leaves_keyPart cs
    unfold keyUpTo
    generalize keyPart cs = step at hpart ⊢
    cases hpart with
    | malformed => exact .malformed
    | tooManyDigits hrow => exact .tooManyDigits hrow
    | @ok name rest hrest =>
      have hblanks := (skipBlanks_suffix rest).trans hrest
      simp only
      split
      · rename_i others hskip
        rw [hskip] at hblanks
        exact (ih _).mapValue.mono
          ((skipBlanks_suffix _).trans ((List.suffix_cons ..).trans hblanks))
      · exact .ok hblanks

theorem leaves_key (cs : List Char) : Leaves cs (key cs) := leaves_keyUpTo _ cs

/-! ## Rows of digits -/

theorem isDigit_of_isDigitOf {c : Char} (h : isDigitOf 10 c = true) : c.isDigit = true := by
  unfold isDigitOf digitValue? at h
  split at h
  · rename_i n hvalue
    split at hvalue
    · rename_i hrange
      simp only [Char.le_def] at hrange
      simp only [Char.isDigit, ge_iff_le, Bool.and_eq_true, decide_eq_true_eq]
      exact hrange
    · split at hvalue
      · cases hvalue
        simp only [decide_eq_true_eq] at h
        omega
      · split at hvalue
        · cases hvalue
          simp only [decide_eq_true_eq] at h
          omega
        · cases hvalue
  · cases h

theorem not_isDigitOf_lowLine (base : Nat) : isDigitOf base '_' = false := rfl

/-- A digit is none of the characters that a row leaves out. -/
theorem filter_digit {base : Nat} {d : Char} (hd : isDigitOf base d = true) (row : List Char) :
    (d :: row).filter (· != '_') = d :: row.filter (· != '_') := by
  refine List.filter_cons_of_pos ?_
  rw [bne_iff_ne]
  rintro rfl
  rw [not_isDigitOf_lowLine] at hd
  cases hd

/-- The text in front of what a row leaves has the row's digits, and no other characters than
    them and low lines. -/
theorem moreDigits_split (base : Nat) (cs : List Char) :
    ∃ row, row ++ (moreDigits base cs).2 = cs
      ∧ row.filter (· != '_') = (moreDigits base cs).1
      ∧ ∀ c ∈ row, isDigitOf base c = true ∨ c = '_' := by
  induction cs using moreDigits.induct base with
  | case1 => exact ⟨[], rfl, rfl, by simp⟩
  | case2 d rest hd ih =>
    obtain ⟨row, hsplit, hdigits, hall⟩ := ih
    refine ⟨'_' :: d :: row, ?_, ?_, ?_⟩
    · simpa only [moreDigits, hd, if_true, List.cons_append, List.cons.injEq, true_and] using hsplit
    · simp only [moreDigits, hd, if_true]
      rw [List.filter_cons_of_neg (by decide), filter_digit hd, hdigits]
    · simpa only [List.forall_mem_cons, or_true, hd, true_or, true_and] using hall
  | case3 d rest hd =>
    refine ⟨[], ?_, ?_, by simp⟩ <;> simp [moreDigits, hd]
  | case4 d rest hnot hd ih =>
    obtain ⟨row, hsplit, hdigits, hall⟩ := ih
    rw [moreDigits]
    · refine ⟨d :: row, ?_, ?_, ?_⟩
      · simpa only [hd, if_true, List.cons_append, List.cons.injEq, true_and] using hsplit
      · simp only [hd, if_true]
        rw [filter_digit hd, hdigits]
      · simpa only [List.forall_mem_cons, hd, true_or, true_and] using hall
    · exact hnot
  | case5 d rest hnot hd =>
    rw [moreDigits]
    · refine ⟨[], ?_, ?_, by simp⟩ <;> simp [hd]
    · exact hnot

theorem digitRow?_split {base : Nat} {ds : List Char} (h : digitRow? base cs = some (ds, rest)) :
    ∃ row, row ++ rest = cs ∧ row.filter (· != '_') = ds
      ∧ ∀ c ∈ row, isDigitOf base c = true ∨ c = '_' := by
  cases cs with
  | nil => cases h
  | cons d others =>
    simp only [digitRow?] at h
    split at h
    · rename_i hd
      cases h
      obtain ⟨row, hsplit, hdigits, hall⟩ := moreDigits_split base others
      refine ⟨d :: row, by rw [List.cons_append, hsplit], ?_, ?_⟩
      · rw [filter_digit hd, hdigits]
      · simpa only [List.forall_mem_cons, hd, true_or, true_and] using hall
    · cases h

theorem suffix_of_digitRow? {base : Nat} {ds : List Char}
    (h : digitRow? base cs = some (ds, rest)) : rest <:+ cs := by
  obtain ⟨row, hsplit, -, -⟩ := digitRow?_split h
  exact ⟨row, hsplit⟩

/-- A row of decimal digits beyond the limit stands in the text that it was read from. -/
theorem longRow_of_digitRow? {ds : List Char} (h : digitRow? 10 cs = some (ds, rest))
    (hlimit : digitLimit < ds.length) : LongRow ds.length cs := by
  obtain ⟨row, hsplit, hdigits, hall⟩ := digitRow?_split h
  refine ⟨hlimit, row, hsplit ▸ (List.prefix_append row rest).isInfix, by rw [hdigits], ?_⟩
  exact fun c hc => (hall c hc).imp_left isDigit_of_isDigitOf

/-! ## Numbers -/

theorem suffix_of_basedNumber? {d : Datum} (h : basedNumber? cs = some (d, rest)) :
    rest <:+ cs := by
  unfold basedNumber? at h
  split at h
  · obtain ⟨base, -, h⟩ := Option.bind_eq_some_iff.mp h
    obtain ⟨⟨digits, after⟩, hrow, h⟩ := Option.bind_eq_some_iff.mp h
    cases h
    exact (suffix_of_digitRow? hrow).trans ((List.suffix_cons ..).trans (List.suffix_cons ..))
  · cases h

theorem sign_suffix (cs : List Char) : (sign cs).2 <:+ cs := by
  unfold sign
  split
  · exact List.suffix_cons ..
  · exact List.suffix_cons ..
  · exact List.suffix_refl _

/-- The fraction that stands at the front of the text, or none, leaves an end of it. -/
theorem fraction_suffix (cs : List Char) : ((fraction cs).getD ([], cs)).2 <:+ cs := by
  unfold fraction
  split
  · rename_i others
    cases hrow : digitRow? 10 others with
    | none => exact List.suffix_refl _
    | some p =>
      obtain ⟨digits, after⟩ := p
      exact (suffix_of_digitRow? hrow).trans (List.suffix_cons ..)
  · exact List.suffix_refl _

theorem exponent_suffix (cs : List Char) : ((exponent cs).getD (0, cs)).2 <:+ cs := by
  unfold exponent
  split
  · rename_i e others
    split
    · simp only
      cases hrow : digitRow? 10 (sign others).2 with
      | none => exact List.suffix_refl _
      | some p =>
        obtain ⟨digits, after⟩ := p
        exact (suffix_of_digitRow? hrow).trans
          ((sign_suffix others).trans (List.suffix_cons ..))
    · exact List.suffix_refl _
  · exact List.suffix_refl _

theorem leaves_decimalNumber? {step : Step Datum} (h : decimalNumber? cs = some step) :
    Leaves cs step := by
  simp only [decimalNumber?, Option.map_eq_some_iff] at h
  obtain ⟨⟨whole, after⟩, hwhole, hstep⟩ := h
  have hsign := sign_suffix cs
  -- Both forms of the whole part are looked at once: what they leave, and when it is too long.
  have hpart : after <:+ (sign cs).2 ∧ (digitLimit < whole.length →
      LongRow whole.length (sign cs).2) := by
    generalize (sign cs).2 = unsigned at hwhole
    split at hwhole
    · cases hwhole
      exact ⟨List.suffix_cons .., fun hlimit => absurd hlimit (by decide)⟩
    · exact ⟨suffix_of_digitRow? hwhole, longRow_of_digitRow? hwhole⟩
  obtain ⟨hafter, hlong⟩ := hpart
  have hfraction := fraction_suffix after
  have hexponent := exponent_suffix ((fraction after).getD ([], after)).2
  subst hstep
  simp only
  split
  · split
    · rename_i hlimit
      exact .tooManyDigits ((hlong hlimit).mono hsign)
    · exact .ok (hfraction.trans (hafter.trans hsign))
  · exact .ok (hexponent.trans (hfraction.trans (hafter.trans hsign)))

theorem suffix_of_namedNumber? {d : Datum} (h : namedNumber? cs = some (d, rest)) :
    rest <:+ cs := by
  have hsign := sign_suffix cs
  unfold namedNumber? at h
  simp only at h
  generalize (sign cs).2 = unsigned at h hsign
  split at h
  · cases h
    exact (List.suffix_append ['i', 'n', 'f'] rest).trans hsign
  · cases h
    exact (List.suffix_append ['n', 'a', 'n'] rest).trans hsign
  · cases h

/-! ## Dates and times -/

theorem suffix_of_twoDigits? {low high n : Nat} (h : twoDigits? low high cs = some (n, rest)) :
    rest <:+ cs := by
  unfold twoDigits? at h
  split at h
  · rename_i a b others
    split at h
    · simp only at h
      split at h
      · cases h
        exact List.suffix_append [a, b] rest
      · cases h
    · cases h
  · cases h

theorem suffix_of_skipChar? {c : Char} (h : skipChar? c cs = some rest) : rest <:+ cs := by
  unfold skipChar? at h
  split at h
  · split at h
    · cases h
      exact List.suffix_cons ..
    · cases h
  · cases h

theorem micros_suffix (cs : List Char) : (micros cs).2 <:+ cs := by
  unfold micros
  split
  · simp only
    split
    · exact List.suffix_refl _
    · exact (List.dropWhile_suffix _).trans (List.suffix_cons ..)
  · exact List.suffix_refl _

theorem suffix_of_timeOfDay? {time : TimeOfDay} (h : timeOfDay? cs = some (time, rest)) :
    rest <:+ cs := by
  unfold timeOfDay? at h
  obtain ⟨⟨hour, afterHour⟩, hhour, h⟩ := Option.bind_eq_some_iff.mp h
  obtain ⟨toMinute, hcolon, h⟩ := Option.bind_eq_some_iff.mp h
  obtain ⟨⟨minute, afterMinute⟩, hminute, h⟩ := Option.bind_eq_some_iff.mp h
  obtain ⟨toSecond, hcolon', h⟩ := Option.bind_eq_some_iff.mp h
  obtain ⟨⟨second, afterSecond⟩, hsecond, h⟩ := Option.bind_eq_some_iff.mp h
  cases h
  have hafterMinute := (suffix_of_twoDigits? hminute).trans
    ((suffix_of_skipChar? hcolon).trans (suffix_of_twoDigits? hhour))
  have hafterSecond := (suffix_of_twoDigits? hsecond).trans
    ((suffix_of_skipChar? hcolon').trans hafterMinute)
  exact (micros_suffix _).trans hafterSecond

theorem offset_suffix (cs : List Char) : (offset cs).2 <:+ cs := by
  -- A distance with a sign leaves an end of what stands behind the sign.
  have hsigned : ∀ {mark : Char} {others : List Char} {p : Option (String × List Char)},
      (∀ q, p = some q → q.2 <:+ others) → (p.getD ("", mark :: others)).2 <:+ mark :: others := by
    intro mark others p hp
    cases p with
    | none => exact List.suffix_refl _
    | some q => exact (hp q rfl).trans (List.suffix_cons ..)
  have hfigures : ∀ {others : List Char} {name : Nat × List Char → Nat × List Char → String}
      {q : String × List Char},
      ((twoDigits? 0 23 others).bind fun p => (skipChar? ':' p.2).bind fun after =>
        (twoDigits? 0 59 after).bind fun r => some (name p r, r.2)) = some q →
      q.2 <:+ others := by
    intro others name q h
    obtain ⟨⟨hour, afterHour⟩, hhour, h⟩ := Option.bind_eq_some_iff.mp h
    obtain ⟨toMinute, hcolon, h⟩ := Option.bind_eq_some_iff.mp h
    obtain ⟨⟨minute, afterMinute⟩, hminute, h⟩ := Option.bind_eq_some_iff.mp h
    cases h
    exact (suffix_of_twoDigits? hminute).trans
      ((suffix_of_skipChar? hcolon).trans (suffix_of_twoDigits? hhour))
  unfold offset
  simp only
  split
  · exact List.suffix_cons ..
  · exact List.suffix_cons ..
  · exact hsigned fun q hq => hfigures hq
  · exact hsigned fun q hq => hfigures hq
  · exact List.suffix_refl _

theorem suffix_of_dateFigures? {figures : Nat × Nat × Nat}
    (h : dateFigures? cs = some (figures, rest)) : rest <:+ cs := by
  unfold dateFigures? at h
  obtain ⟨⟨century, afterCentury⟩, hcentury, h⟩ := Option.bind_eq_some_iff.mp h
  obtain ⟨⟨year, afterYear⟩, hyear, h⟩ := Option.bind_eq_some_iff.mp h
  obtain ⟨toMonth, hdash, h⟩ := Option.bind_eq_some_iff.mp h
  obtain ⟨⟨month, afterMonth⟩, hmonth, h⟩ := Option.bind_eq_some_iff.mp h
  obtain ⟨toDay, hdash', h⟩ := Option.bind_eq_some_iff.mp h
  obtain ⟨⟨day, afterDay⟩, hday, h⟩ := Option.bind_eq_some_iff.mp h
  cases h
  have hafterYear := (suffix_of_twoDigits? hyear).trans (suffix_of_twoDigits? hcentury)
  have hafterMonth := (suffix_of_twoDigits? hmonth).trans
    ((suffix_of_skipChar? hdash).trans hafterYear)
  exact (suffix_of_twoDigits? hday).trans ((suffix_of_skipChar? hdash').trans hafterMonth)

theorem suffix_of_timeAfterDate? {time : TimeOfDay} (h : timeAfterDate? cs = some (time, rest)) :
    rest <:+ cs := by
  unfold timeAfterDate? at h
  split at h
  · split at h
    · exact (suffix_of_timeOfDay? h).trans (List.suffix_cons ..)
    · cases h
  · cases h

theorem leaves_date? {step : Step Datum} (h : date? cs = some step) : Leaves cs step := by
  simp only [date?, Option.map_eq_some_iff] at h
  obtain ⟨⟨⟨year, month, day⟩, rest⟩, hfigures, rfl⟩ := h
  have hrest := suffix_of_dateFigures? hfigures
  simp only
  split
  · exact .malformed
  · split
    · exact .ok hrest
    · rename_i time afterTime htime
      exact .ok ((offset_suffix _).trans ((suffix_of_timeAfterDate? htime).trans hrest))

/-! ## Scalars -/

theorem leaves_scalar (cs : List Char) : Leaves cs (scalar cs) := by
  -- The readers are tried one after the other, and only the one for decimals counts digits.
  unfold scalar
  split
  · rename_i step hdate
    exact leaves_date? hdate
  split
  · rename_i time rest htime
    exact .ok (suffix_of_timeOfDay? htime)
  split
  · rename_i p hbased
    obtain ⟨number, rest⟩ := p
    exact .ok (suffix_of_basedNumber? hbased)
  split
  · rename_i step hdecimal
    exact leaves_decimalNumber? hdecimal
  split
  · rename_i p hnamed
    obtain ⟨number, rest⟩ := p
    exact .ok (suffix_of_namedNumber? hnamed)
  · exact .malformed

/-! ## Values -/

/-- The readers of values at one bound leave ends of their texts. -/
structure ValuesLeave (fuel : Nat) : Prop where
  value : ∀ cs, Leaves cs (value fuel cs)
  items : ∀ cs, Leaves cs (items fuel cs)
  inlineMembers : ∀ members settled cs, Leaves cs (inlineMembers fuel members settled cs)
  keyValue : ∀ cs, Leaves cs (keyValue fuel cs)

variable {fuel : Nat}

theorem ValuesLeave.leaves_value (h : ValuesLeave fuel) (cs : List Char) :
    Leaves cs (Toml.value (fuel + 1) cs) := by
  have three : ∀ a b c : Char, ∀ rest : List Char, rest <:+ a :: b :: c :: rest :=
    fun a b c rest => List.suffix_append [a, b, c] rest
  unfold Toml.value
  split
  · exact (leaves_basicLines _).mapValue.mono (three ..)
  · exact (leaves_basicBody ..).mapValue.mono (List.suffix_cons ..)
  · exact (leaves_literalLines _).mapValue.mono (three ..)
  · exact (leaves_literalString _).mapValue.mono (List.suffix_cons ..)
  · exact .ok (List.suffix_append ['t', 'r', 'u', 'e'] _)
  · exact .ok (List.suffix_append ['f', 'a', 'l', 's', 'e'] _)
  · rename_i rest
    rcases skipGaps_cases rest.length rest with ⟨after, hgaps, hafter⟩ | hgaps
    · rw [hgaps]
      exact (h.items after).mapValue.mono (hafter.trans (List.suffix_cons ..))
    · rw [hgaps]
      exact .malformed
  · rename_i rest
    have hblanks := (skipBlanks_suffix rest).trans (List.suffix_cons '\x7b' rest)
    split
    · rename_i others hskip
      rw [hskip] at hblanks
      exact .ok ((List.suffix_cons ..).trans hblanks)
    · exact (h.inlineMembers ..).mapValue.mono hblanks
  · exact leaves_scalar _

theorem ValuesLeave.leaves_items (h : ValuesLeave fuel) (cs : List Char) :
    Leaves cs (Toml.items (fuel + 1) cs) := by
  unfold Toml.items
  split
  · exact .ok (List.suffix_cons ..)
  · have hvalue := h.value cs
    generalize Toml.value fuel cs = step at hvalue ⊢
    cases hvalue with
    | malformed => exact .malformed
    | tooManyDigits hrow => exact .tooManyDigits hrow
    | @ok item rest hrest =>
      simp only
      rcases skipGaps_cases rest.length rest with ⟨after, hgaps, hafter⟩ | hgaps
      · rw [hgaps]
        have hafter := hafter.trans hrest
        split
        · rename_i hbracket
          cases hbracket
        · rename_i others hbracket
          cases hbracket
          exact .ok ((List.suffix_cons ..).trans hafter)
        · rename_i others hcomma
          cases hcomma
          have hothers := (List.suffix_cons ',' others).trans hafter
          rcases skipGaps_cases others.length others with ⟨next, hgaps, hnext⟩ | hgaps
          · rw [hgaps]
            exact (h.items next).mapValue.mono (hnext.trans hothers)
          · rw [hgaps]
            exact .malformed
        · exact .malformed
      · rw [hgaps]
        exact .malformed

theorem ValuesLeave.leaves_inlineMembers (h : ValuesLeave fuel) (members : Members)
    (settled : Settled) (cs : List Char) :
    Leaves cs (Toml.inlineMembers (fuel + 1) members settled cs) := by
  have hmember := h.keyValue cs
  unfold Toml.inlineMembers
  generalize Toml.keyValue fuel cs = step at hmember ⊢
  cases hmember with
  | malformed => exact .malformed
  | tooManyDigits hrow => exact .tooManyDigits hrow
  | @ok member rest hrest =>
    have hblanks := (skipBlanks_suffix rest).trans hrest
    simp only
    split
    · exact .malformed
    split
    · exact .malformed
    split
    · rename_i others hskip
      rw [hskip] at hblanks
      exact .ok ((List.suffix_cons ..).trans hblanks)
    · rename_i others hskip
      rw [hskip] at hblanks
      exact (h.inlineMembers ..).mono
        ((skipBlanks_suffix others).trans ((List.suffix_cons ..).trans hblanks))
    · exact .malformed

theorem ValuesLeave.leaves_keyValue (h : ValuesLeave fuel) (cs : List Char) :
    Leaves cs (Toml.keyValue (fuel + 1) cs) := by
  have hkey := leaves_key cs
  unfold Toml.keyValue
  generalize key cs = step at hkey ⊢
  cases hkey with
  | malformed => exact .malformed
  | tooManyDigits hrow => exact .tooManyDigits hrow
  | @ok k rest hrest =>
    split
    · rename_i hbad
      cases hbad
    · rename_i others hsign
      cases hsign
      exact (h.value _).mapValue.mono
        ((skipBlanks_suffix _).trans ((List.suffix_cons ..).trans hrest))
    · exact .malformed

/-- By induction on the bound of the nesting: each of the four readers calls the others with a
    smaller one. -/
theorem valuesLeave (fuel : Nat) : ValuesLeave fuel := by
  induction fuel with
  | zero =>
    exact ⟨fun _ => .malformed, fun _ => .malformed, fun _ _ _ => .malformed, fun _ => .malformed⟩
  | succ fuel ih =>
    exact ⟨ih.leaves_value, ih.leaves_items, ih.leaves_inlineMembers, ih.leaves_keyValue⟩

/-! ## Statements -/

theorem leaves_orMalformed {draft : Option Draft} (h : rest <:+ cs) :
    Leaves cs (orMalformed draft rest) := by
  cases draft with
  | none => exact .malformed
  | some draft => exact .ok h

theorem leaves_header (draft : Draft) (cs : List Char) : Leaves cs (header draft cs) := by
  unfold header
  simp only
  split
  · rename_i rest
    have hkey := (leaves_key (skipBlanks rest)).mono
      ((skipBlanks_suffix rest).trans (List.suffix_cons '[' rest))
    generalize key (skipBlanks rest) = step at hkey ⊢
    cases hkey with
    | malformed => exact .malformed
    | tooManyDigits hrow => exact .tooManyDigits hrow
    | @ok k after hafter =>
      split
      · rename_i hbad
        cases hbad
      · rename_i others hbrackets
        cases hbrackets
        exact leaves_orMalformed ((List.suffix_append [']', ']'] _).trans hafter)
      · exact .malformed
  · have hkey := (leaves_key (skipBlanks cs)).mono (skipBlanks_suffix cs)
    generalize key (skipBlanks cs) = step at hkey ⊢
    cases hkey with
    | malformed => exact .malformed
    | tooManyDigits hrow => exact .tooManyDigits hrow
    | @ok k after hafter =>
      split
      · rename_i hbad
        cases hbad
      · rename_i others hbracket
        cases hbracket
        exact leaves_orMalformed ((List.suffix_cons ..).trans hafter)
      · exact .malformed

theorem leaves_statement (fuel : Nat) (draft : Draft) (cs : List Char) :
    Leaves cs (statement fuel draft cs) := by
  unfold statement
  split
  · exact .ok (List.suffix_refl _)
  · exact .ok (List.suffix_refl _)
  · exact .ok (List.suffix_refl _)
  · exact (leaves_header ..).mono (List.suffix_cons ..)
  · rename_i c rest _ _ _
    split
    · have hmember := (valuesLeave fuel).keyValue (c :: rest)
      generalize keyValue fuel (c :: rest) = step at hmember ⊢
      cases hmember with
      | malformed => exact .malformed
      | tooManyDigits hrow => exact .tooManyDigits hrow
      | ok hafter => exact leaves_orMalformed hafter
    · exact .malformed

/-- By induction on the bound of the statements, along the text that is left. -/
theorem longRow_of_statements {fuel : Nat} {draft : Draft} {cs : List Char} {count : Nat}
    (h : statements fuel draft cs = .error (.tooManyDigits count)) : LongRow count cs := by
  induction fuel generalizing draft cs with
  | zero => cases h
  | succ fuel ih =>
    have hstatement := (leaves_statement (cs.length + 2) draft (skipBlanks cs)).mono
      (skipBlanks_suffix cs)
    unfold statements at h
    generalize statement (cs.length + 2) draft (skipBlanks cs) = step at hstatement h
    cases hstatement with
    | malformed => cases h
    | tooManyDigits hrow =>
      cases h
      exact hrow
    | @ok draft rest hrest =>
      simp only at h
      have hblanks := (skipBlanks_suffix rest).trans hrest
      rcases skipComment_cases (skipBlanks rest) with ⟨after, hcomment, hafter⟩ | hcomment
      · rw [hcomment] at h
        split at h
        · rename_i hbad
          cases hbad
        · cases h
        · rename_i others hbreak
          cases hbreak
          exact (ih h).mono ((List.suffix_cons ..).trans (hafter.trans hblanks))
        · cases h
      · rw [hcomment] at h
        cases h

/-- A document fails for too many digits only if it has so many in a row, beyond the limit. -/
theorem longRow_of_read {cs : List Char} {count : Nat}
    (h : read cs = .error (.tooManyDigits count)) : LongRow count cs :=
  longRow_of_statements h

/-! ## A document beyond the limit -/

theorem moreDigits_replicate (count : Nat) :
    moreDigits 10 (List.replicate count '1') = (List.replicate count '1', []) := by
  induction count with
  | zero => rfl
  | succ count ih =>
    rw [List.replicate_succ, moreDigits]
    · rw [if_pos (by decide), ih]
    · intro d rest h
      cases h

theorem decimalNumber?_replicate {count : Nat} (h : digitLimit < count + 1) :
    decimalNumber? (List.replicate (count + 1) '1')
      = some (.error (.tooManyDigits (count + 1))) := by
  have hrow : digitRow? 10 (List.replicate (count + 1) '1')
      = some (List.replicate (count + 1) '1', []) := by
    rw [List.replicate_succ, digitRow?, if_pos (by decide), moreDigits_replicate]
  have hsign : sign (List.replicate (count + 1) '1')
      = (false, List.replicate (count + 1) '1') := rfl
  have hfraction : fraction [] = none := rfl
  have hexponent : exponent [] = none := rfl
  simp only [decimalNumber?, hsign]
  refine Option.map_eq_some_iff.mpr ⟨(List.replicate (count + 1) '1', []), hrow, ?_⟩
  simp only [hfraction, hexponent, Option.isNone_none, Option.getD_none, Bool.and_self, if_true,
    List.length_replicate, if_pos h]

/-- A statement that begins with a bare key fails as its member does. -/
theorem statement_of_keyValue {fuel : Nat} {draft : Draft} {c : Char} {fault : Fault}
    (hc : isBareKeyChar c = true) (hmember : keyValue fuel (c :: rest) = .error fault) :
    statement fuel draft (c :: rest) = .error fault := by
  unfold statement
  split
  · rename_i hnil
    cases hnil
  · rename_i hbreak
    cases hbreak
    cases hc
  · rename_i hcomment
    cases hcomment
    cases hc
  · rename_i hbracket
    cases hbracket
    cases hc
  · rename_i hmark
    cases hmark
    rw [if_pos (by rw [hc]; rfl), hmember]

/-- A document with one member whose value has more digits than the limit is given up. -/
theorem read_replicate {count : Nat} (h : digitLimit < count) :
    read ('a' :: '=' :: List.replicate count '1') = .error (.tooManyDigits count) := by
  -- The first digits are written out: a date or a time would begin with some of them.
  obtain ⟨more, rfl⟩ : ∃ more, count = more + 4 + 1 :=
    ⟨count - 5, by have : digitLimit = 4300 := rfl; omega⟩
  generalize hdigits : List.replicate (more + 4 + 1) '1' = digits
  have hvalue : ∀ fuel, value (fuel + 1) digits = .error (.tooManyDigits (more + 4 + 1)) := by
    intro fuel
    subst hdigits
    have hdate : date? (List.replicate (more + 4 + 1) '1') = none := rfl
    have htime : timeOfDay? (List.replicate (more + 4 + 1) '1') = none := rfl
    have hbased : basedNumber? (List.replicate (more + 4 + 1) '1') = none := rfl
    calc value (fuel + 1) (List.replicate (more + 4 + 1) '1')
        = scalar (List.replicate (more + 4 + 1) '1') := rfl
      _ = .error (.tooManyDigits (more + 4 + 1)) := by
        simp only [scalar, hdate, htime, hbased, decimalNumber?_replicate h]
  have hblanks : skipBlanks digits = digits := by
    subst hdigits
    rfl
  have hmember : ∀ fuel, keyValue (fuel + 2) ('a' :: '=' :: digits)
      = .error (.tooManyDigits (more + 4 + 1)) := by
    intro fuel
    have hkey : key ('a' :: '=' :: digits) = .ok (["a"], '=' :: digits) := rfl
    simp only [keyValue, hkey, hblanks, hvalue]
    rfl
  have hstatement : ∀ fuel draft, statement (fuel + 2) draft ('a' :: '=' :: digits)
      = .error (.tooManyDigits (more + 4 + 1)) :=
    fun fuel draft => statement_of_keyValue (by decide) (hmember fuel)
  have hstart : skipBlanks ('a' :: '=' :: digits) = 'a' :: '=' :: digits := rfl
  simp only [read, statements, hstart, hstatement]

end LintBroker.Toml
