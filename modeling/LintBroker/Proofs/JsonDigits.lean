/-
  LintBroker.Proofs.JsonDigits

  Where a JSON text breaks the limit on digits.  Every step of the reader leaves an end
  of its text, and it fails for too many digits only if they stand in that text, one next
  to the other (`Leaves`); so does the reader as a whole: `longRow_of_read`.  A text of
  nothing but digits shows that it does fail for every count beyond the limit:
  `read_longNumber`.
-/
import LintBroker.Proofs.JsonNumber

namespace LintBroker.Json

open LintBroker.Number

/-! ## Rows of digits in a text -/

/-- A row of so many digits, more than the limit, stands in a text. -/
def LongRow (count : Nat) (cs : List Char) : Prop :=
  digitLimit < count
    ∧ ∃ row, row <:+: cs ∧ row.length = count ∧ ∀ c ∈ row, isAsciiDigit c = true

theorem LongRow.mono {count : Nat} {cs text : List Char} (h : cs <:+: text)
    (hrow : LongRow count cs) : LongRow count text := by
  obtain ⟨hlimit, row, hin, hdigits⟩ := hrow
  exact ⟨hlimit, row, hin.trans h, hdigits⟩

/-- A step leaves an end of its text, and fails for too many digits only if they stand in it. -/
inductive Leaves {α : Type} (cs : List Char) : Step α → Prop where
  | ok {a : α} {rest : List Char} (h : rest <:+ cs) : Leaves cs (.ok (a, rest))
  | malformed : Leaves cs (.error .malformed)
  | tooManyDigits {count : Nat} (h : LongRow count cs) : Leaves cs (.error (.tooManyDigits count))

section Leaves

variable {α β : Type} {cs text : List Char} {step : Step α}

/-- A step on an end of a text is one on the text. -/
theorem Leaves.mono (h : cs <:+ text) (hstep : Leaves cs step) : Leaves text step := by
  cases hstep with
  | ok hrest => exact .ok (hrest.trans h)
  | malformed => exact .malformed
  | tooManyDigits hrow => exact .tooManyDigits (hrow.mono h.isInfix)

/-- A step that only makes another value of what was read. -/
theorem Leaves.mapValue {f : α × List Char → β} (hstep : Leaves cs step) :
    Leaves cs (step.map fun p => (f p, p.2)) := by
  cases hstep with
  | ok hrest => exact .ok hrest
  | malformed => exact .malformed
  | tooManyDigits hrow => exact .tooManyDigits hrow

end Leaves

variable {cs rest : List Char}

theorem skipBlanks_suffix (cs : List Char) : skipBlanks cs <:+ cs := List.dropWhile_suffix _

/-- What follows a mark behind blanks is an end of the text. -/
theorem suffix_of_skipBlanks {c : Char} (h : skipBlanks cs = c :: rest) : rest <:+ cs :=
  (List.suffix_cons c rest).trans (h ▸ skipBlanks_suffix cs)

/-! ## Strings -/

theorem leaves_stringMarks (cs : List Char) : Leaves cs (stringMarks cs) := by
  induction cs using stringMarks.induct with
  | case1 => exact .malformed
  | case2 rest => exact .ok (List.suffix_cons ..)
  | case3 a b c d rest n hunit ih =>
    rw [stringMarks]
    simp only [hunit]
    exact ih.mapValue.mono (List.suffix_append ['\\', 'u', a, b, c, d] rest)
  | case4 a b c d rest hunit =>
    rw [stringMarks]
    simp only [hunit]
    exact .malformed
  | case5 c rest hnot e hescape ih =>
    rw [stringMarks]
    · simp only [hescape]
      exact ih.mapValue.mono (List.suffix_append ['\\', c] rest)
    · exact hnot
  | case6 c rest hnot hescape =>
    rw [stringMarks]
    · simp only [hescape]
      exact .malformed
    · exact hnot
  | case7 c rest hquote hlong hshort hbad =>
    rw [stringMarks]
    · rw [if_pos hbad]
      exact .malformed
    all_goals assumption
  | case8 c rest hquote hlong hshort hgood ih =>
    rw [stringMarks]
    · rw [if_neg hgood]
      exact ih.mapValue.mono (List.suffix_cons ..)
    all_goals assumption

theorem leaves_stringBody (cs : List Char) : Leaves cs (stringBody cs) :=
  (leaves_stringMarks cs).mapValue

/-! ## Numbers -/

theorem fraction_suffix (cs : List Char) : (fraction cs).2 <:+ cs := by
  unfold fraction
  split
  · simp only
    split
    · exact List.suffix_refl _
    · exact (List.dropWhile_suffix _).trans (List.suffix_cons ..)
  · exact List.suffix_refl _

theorem exponent_suffix (cs : List Char) : ((exponent? cs).getD (0, cs)).2 <:+ cs := by
  unfold exponent?
  split
  · rename_i e others
    split
    · split
      rename_i negative behind hsign
      -- Behind the letter stands the row of digits, or a sign and the row.
      have hbehind : behind <:+ others := by
        split at hsign
        · cases hsign
          exact List.suffix_cons ..
        · cases hsign
          exact List.suffix_cons ..
        · cases hsign
          exact List.suffix_refl _
      simp only
      split
      · exact List.suffix_refl _
      · exact (List.dropWhile_suffix _).trans (hbehind.trans (List.suffix_cons ..))
    · exact List.suffix_refl _
  · exact List.suffix_refl _

theorem leaves_unsignedNumber (negative : Bool) (cs : List Char) :
    Leaves cs (unsignedNumber (some digitLimit) negative cs) := by
  have hzero : ∀ c ∈ ['0'], isAsciiDigit c = true := List.forall_mem_singleton.mpr rfl
  have hdigits : ∀ c ∈ cs.takeWhile isAsciiDigit, isAsciiDigit c = true :=
    List.all_eq_true.mp List.all_takeWhile
  have hfraction : ∀ whole : List Char, (fraction (cs.drop whole.length)).2 <:+ cs :=
    fun whole => (fraction_suffix _).trans (List.drop_suffix ..)
  unfold unsignedNumber
  -- The whole part is a row of digits at the front; a zero is one digit.
  split
  case' h_1 tail => have hfront : ['0'] <:+: '0' :: tail := (List.prefix_append ['0'] tail).isInfix
  case' h_2 =>
    have hfront : cs.takeWhile isAsciiDigit <:+: cs := (List.takeWhile_prefix _).isInfix
  all_goals
    simp only
    split
    · exact .malformed
    split
    · split
      · rename_i hlimit
        exact .tooManyDigits ⟨of_decide_eq_true hlimit, _, hfront, rfl, ‹_›⟩
      · exact .ok (hfraction _)
    · exact .ok ((exponent_suffix _).trans (hfraction _))

/-! ## Values -/

/-- The readers of values at one bound leave ends of their texts. -/
structure ValuesLeave (fuel : Nat) : Prop where
  value : ∀ cs, Leaves cs (value (some digitLimit) fuel cs)
  items : ∀ cs, Leaves cs (items (some digitLimit) fuel cs)
  members : ∀ cs, Leaves cs (members (some digitLimit) fuel cs)

variable {fuel : Nat}

theorem ValuesLeave.leaves_value (h : ValuesLeave fuel) (cs : List Char) :
    Leaves cs (Json.value (some digitLimit) (fuel + 1) cs) := by
  unfold Json.value
  split
  · exact (leaves_stringBody _).mapValue.mono (List.suffix_cons ..)
  · split
    · rename_i others hskip
      exact .ok ((suffix_of_skipBlanks hskip).trans (List.suffix_cons ..))
    · exact (h.items _).mapValue.mono ((skipBlanks_suffix _).trans (List.suffix_cons ..))
  · split
    · rename_i others hskip
      exact .ok ((suffix_of_skipBlanks hskip).trans (List.suffix_cons ..))
    · exact (h.members _).mapValue.mono ((skipBlanks_suffix _).trans (List.suffix_cons ..))
  · exact .ok (List.suffix_append ['n', 'u', 'l', 'l'] _)
  · exact .ok (List.suffix_append ['t', 'r', 'u', 'e'] _)
  · exact .ok (List.suffix_append ['f', 'a', 'l', 's', 'e'] _)
  · exact .ok (List.suffix_append ['N', 'a', 'N'] _)
  · exact .ok (List.suffix_append ['I', 'n', 'f', 'i', 'n', 'i', 't', 'y'] _)
  · exact .ok (List.suffix_append ['-', 'I', 'n', 'f', 'i', 'n', 'i', 't', 'y'] _)
  · exact (leaves_unsignedNumber true _).mono (List.suffix_cons ..)
  · exact leaves_unsignedNumber false _

theorem ValuesLeave.leaves_items (h : ValuesLeave fuel) (cs : List Char) :
    Leaves cs (Json.items (some digitLimit) (fuel + 1) cs) := by
  have hfirst := h.value cs
  unfold Json.items
  generalize Json.value (some digitLimit) fuel cs = step at hfirst ⊢
  cases hfirst with
  | malformed => exact .malformed
  | tooManyDigits hrow => exact .tooManyDigits hrow
  | @ok item behind hbehind =>
    simp only
    split
    · rename_i others hskip
      exact .ok ((suffix_of_skipBlanks hskip).trans hbehind)
    · rename_i others hskip
      exact (h.items _).mapValue.mono
        ((skipBlanks_suffix _).trans ((suffix_of_skipBlanks hskip).trans hbehind))
    · exact .malformed

theorem ValuesLeave.leaves_members (h : ValuesLeave fuel) (cs : List Char) :
    Leaves cs (Json.members (some digitLimit) (fuel + 1) cs) := by
  unfold Json.members
  split
  · rename_i others
    have hname := (leaves_stringBody others).mono (List.suffix_cons '"' others)
    generalize stringBody others = step at hname ⊢
    cases hname with
    | malformed => exact .malformed
    | tooManyDigits hrow => exact .tooManyDigits hrow
    | @ok name behind hbehind =>
      simp only
      split
      · rename_i toValue hcolon
        have hitem := (h.value (skipBlanks toValue)).mono
          ((skipBlanks_suffix _).trans ((suffix_of_skipBlanks hcolon).trans hbehind))
        generalize Json.value (some digitLimit) fuel (skipBlanks toValue) = step at hitem ⊢
        cases hitem with
        | malformed => exact .malformed
        | tooManyDigits hrow => exact .tooManyDigits hrow
        | @ok item after hafter =>
          simp only
          split
          · rename_i last hskip
            exact .ok ((suffix_of_skipBlanks hskip).trans hafter)
          · rename_i more hskip
            exact (h.members _).mapValue.mono
              ((skipBlanks_suffix _).trans ((suffix_of_skipBlanks hskip).trans hafter))
          · exact .malformed
      · exact .malformed
  · exact .malformed

/-- By induction on the bound of the nesting: each of the three readers calls the others with a
    smaller one. -/
theorem valuesLeave (fuel : Nat) : ValuesLeave fuel := by
  induction fuel with
  | zero => exact ⟨fun _ => .malformed, fun _ => .malformed, fun _ => .malformed⟩
  | succ fuel ih => exact ⟨ih.leaves_value, ih.leaves_items, ih.leaves_members⟩

/-- A text that is given up for a number has its digits in a row in it. -/
theorem longRow_of_read {s : String} {count : Nat} (h : read s = .error (.tooManyDigits count)) :
    LongRow count s.toList := by
  have hleaves := ((valuesLeave (s.toList.length + 1)).value (skipBlanks s.toList)).mono
    (skipBlanks_suffix s.toList)
  unfold read readChars at h
  generalize value (some digitLimit) (s.toList.length + 1) (skipBlanks s.toList) = step
    at h hleaves
  cases hleaves with
  | malformed => cases h
  | tooManyDigits hrow =>
    cases h
    exact hrow
  | ok =>
    simp only at h
    split at h
    · cases h
    · cases h

/-! ## Numbers alone -/

/-- A text of so many digits. -/
def longNumber (count : Nat) : String := String.ofList (List.replicate count '1')

theorem read_longNumber {count : Nat} (h : digitLimit < count) :
    read (longNumber count) = .error (.tooManyDigits count) := by
  obtain ⟨more, rfl⟩ : ∃ more, count = more + 1 := ⟨count - 1, by omega⟩
  have hrow : WholeRow (List.replicate (more + 1) '1') := by
    refine ⟨⟨List.cons_ne_nil _ _, fun c hc => ?_⟩, fun hfirst => ?_⟩
    · rw [List.eq_of_mem_replicate hc]
      rfl
    · cases hfirst
  have hnumber : unsignedNumber (some digitLimit) false (List.replicate (more + 1) '1')
      = .error (.tooManyDigits (more + 1)) := by
    have hread := @unsignedNumber_append digitLimit _ _ hrow stops_nil.noDigit false _ _
      (fraction_of_stops stops_nil)
    simp only [List.append_nil, exponent?_of_stops stops_nil, List.length_replicate,
      List.isEmpty_nil, Option.isNone_none, Bool.and_self, if_true, if_pos h] at hread
    exact hread
  have hvalue : ∀ fuel, value (some digitLimit) (fuel + 1) (List.replicate (more + 1) '1')
      = .error (.tooManyDigits (more + 1)) := by
    intro fuel
    rw [← hnumber]
    exact (value_of_isDigit rfl fuel _).1
  have hblanks : skipBlanks (List.replicate (more + 1) '1') = List.replicate (more + 1) '1' := rfl
  simp only [read, readChars, longNumber, String.toList_ofList, hblanks, hvalue]

end LintBroker.Json
