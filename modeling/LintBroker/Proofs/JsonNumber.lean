/-
  LintBroker.Proofs.JsonNumber

  Numbers of JSON, read back as they were printed.  An integer comes back as long as its
  digits keep to the limit, and a binary number always: its digits with a point among
  them, zeros beside them or a power behind them are one and the same decimal.
-/
import LintBroker.Proofs.Fields
import LintBroker.Proofs.JsonGrammar
import LintBroker.Proofs.Shortest

namespace LintBroker.Json

open LintBroker.Number

/-! ## Digits -/

theorem isAsciiDigit_eq_isDigit (c : Char) : isAsciiDigit c = c.isDigit := by
  rw [Bool.eq_iff_iff, Char.isDigit_iff_toNat]
  unfold isAsciiDigit
  rw [Bool.and_eq_true, decide_eq_true_eq, decide_eq_true_eq]
  rfl

/-- The value of a digit. -/
theorem digitValue?_of_isDigit {c : Char} (h : c.isDigit = true) :
    digitValue? c = some (c.toNat - '0'.toNat) :=
  if_pos (Char.isDigit_iff_toNat.mp h)

theorem digitsValue_natChars (n : Nat) : digitsValue 10 (natChars n) = n := by
  have hvalue : ∀ c ∈ natChars n, ∀ sofar : Nat,
      10 * sofar + (digitValue? c).getD 0 = 10 * sofar + (c.toNat - '0'.toNat) := by
    intro c hc sofar
    rw [digitValue?_of_isDigit (isDigit_of_mem_natChars hc)]
    rfl
  calc digitsValue 10 (natChars n) = Nat.ofDigitChars 10 (natChars n) 0 :=
        List.foldl_ext _ _ 0 fun sofar c hc => hvalue c hc sofar
    _ = n := Nat.ofDigitChars_ten_toDigits

/-- Each zero behind the digits is a power of ten. -/
theorem digitsValue_append_zeros (cs : List Char) (count : Nat) :
    digitsValue 10 (cs ++ List.replicate count '0') = digitsValue 10 cs * 10 ^ count := by
  induction count with
  | zero => simp
  | succ count ih =>
    have hlast : digitsValue 10 (cs ++ List.replicate (count + 1) '0')
        = 10 * digitsValue 10 (cs ++ List.replicate count '0') := by
      rw [List.replicate_succ', ← List.append_assoc]
      exact List.foldl_append
    rw [hlast, ih, Nat.pow_succ, Nat.mul_comm 10, Nat.mul_assoc]

/-- Zeros in front of the digits do not count. -/
theorem digitsValue_zeros_append (count : Nat) (cs : List Char) :
    digitsValue 10 (List.replicate count '0' ++ cs) = digitsValue 10 cs := by
  induction count with
  | zero => rfl
  | succ count ih =>
    rw [List.replicate_succ, List.cons_append, ← ih]
    rfl

/-! ## Where a number ends -/

/-- A text that does not go on with a digit. -/
def NoDigit (rest : List Char) : Prop := ∀ c, rest.head? = some c → c.isDigit = false

theorem noDigit_cons {c : Char} (h : c.isDigit = false) (rest : List Char) :
    NoDigit (c :: rest) := by
  intro d hd
  cases hd
  exact h

/-- A text that does not go on with a number. -/
def Stops (rest : List Char) : Prop :=
  ∀ c, rest.head? = some c → c.isDigit = false ∧ c ≠ '.' ∧ c ≠ 'e' ∧ c ≠ 'E'

theorem Stops.noDigit {rest : List Char} (h : Stops rest) : NoDigit rest := fun c hc => (h c hc).1

theorem stops_cons {c : Char} (h : c.isDigit = false ∧ c ≠ '.' ∧ c ≠ 'e' ∧ c ≠ 'E')
    (rest : List Char) : Stops (c :: rest) := by
  intro d hd
  cases hd
  exact h

theorem stops_nil : Stops [] := fun _ h => nomatch h

theorem fraction_of_stops {rest : List Char} (h : Stops rest) : fraction rest = ([], rest) := by
  unfold fraction
  split
  · exact absurd rfl (h '.' rfl).2.1
  · rfl

theorem exponent?_of_stops {rest : List Char} (h : Stops rest) : exponent? rest = none := by
  cases rest with
  | nil => rfl
  | cons c others =>
    obtain ⟨-, -, hlower, hupper⟩ := h c rfl
    have hletter : (c == 'e' || c == 'E') = false := by
      rw [beq_eq_false_iff_ne.mpr hlower, beq_eq_false_iff_ne.mpr hupper]
      rfl
    simp only [exponent?, hletter, Bool.false_eq_true, if_false]

/-! ## The parts of a number -/

section Parts

variable {digits rest : List Char}

theorem takeWhile_digits (hdigits : DigitRow digits) (hrest : NoDigit rest) :
    (digits ++ rest).takeWhile isAsciiDigit = digits := by
  refine takeWhile_append_of_stop (fun c hc => ?_) fun c hc => ?_
  · rw [isAsciiDigit_eq_isDigit, hdigits.2 c hc]
  · rw [isAsciiDigit_eq_isDigit, hrest c hc]

theorem dropWhile_digits (hdigits : DigitRow digits) (hrest : NoDigit rest) :
    (digits ++ rest).dropWhile isAsciiDigit = rest := by
  refine dropWhile_append_of_stop (fun c hc => ?_) fun c hc => ?_
  · rw [isAsciiDigit_eq_isDigit, hdigits.2 c hc]
  · rw [isAsciiDigit_eq_isDigit, hrest c hc]

theorem DigitRow.isEmpty_eq_false (h : DigitRow digits) : digits.isEmpty = false :=
  List.isEmpty_eq_false_iff.mpr h.1

theorem fraction_digits (hdigits : DigitRow digits) (hrest : NoDigit rest) :
    fraction ('.' :: (digits ++ rest)) = (digits, rest) := by
  simp only [fraction, takeWhile_digits hdigits hrest, dropWhile_digits hdigits hrest,
    hdigits.isEmpty_eq_false, Bool.false_eq_true, if_false]

/-- A power with a sign of its own. -/
theorem exponent?_digits (hdigits : DigitRow digits) (hrest : NoDigit rest) (negative : Bool) :
    exponent? ('e' :: (if negative then '-' else '+') :: (digits ++ rest))
      = some (if negative then -(digitsValue 10 digits : Int) else digitsValue 10 digits, rest) := by
  cases negative with
  | false =>
    simp only [exponent?, takeWhile_digits hdigits hrest, dropWhile_digits hdigits hrest,
      hdigits.isEmpty_eq_false, Bool.false_eq_true, if_false, beq_self_eq_true, Bool.true_or,
      if_true]
  | true =>
    simp only [exponent?, takeWhile_digits hdigits hrest, dropWhile_digits hdigits hrest,
      hdigits.isEmpty_eq_false, Bool.false_eq_true, if_false, beq_self_eq_true, Bool.true_or,
      if_true]

/-- A number is read by its whole part, then the places behind the point, then the power. -/
theorem unsignedNumber_append {limit : Nat} {whole behind : List Char} (hwhole : WholeRow whole)
    (hbehind : NoDigit behind) (negative : Bool) {digits after : List Char}
    (hfraction : fraction behind = (digits, after)) :
    unsignedNumber (some limit) negative (whole ++ behind) =
      if digits.isEmpty && (exponent? after).isNone then
        if limit < whole.length then .error (.tooManyDigits whole.length)
        else .ok (.int (if negative then -(digitsValue 10 whole : Int) else digitsValue 10 whole),
          after)
      else .ok (.float (Binary64.ofDecimal negative (digitsValue 10 (whole ++ digits))
          (((exponent? after).getD (0, after)).1 - digits.length)),
        ((exponent? after).getD (0, after)).2) := by
  obtain ⟨hrow, hfirst⟩ := hwhole
  have htake := takeWhile_digits hrow hbehind
  have hzero : ∀ others, whole ++ behind = '0' :: others → ['0'] = whole := by
    intro others heq
    refine (hfirst ?_).symm
    rw [← List.head?_append_of_ne_nil whole hrow.1, heq]
    rfl
  unfold unsignedNumber
  -- A zero ends the whole part at once, any other digit leads to the end of the row.
  split <;> [rw [hzero _ ‹_›]; rw [htake]] <;>
    simp only [hrow.isEmpty_eq_false, List.drop_left, hfraction, Bool.false_eq_true, if_false,
      decide_eq_true_eq]

end Parts

/-! ## Binary numbers -/

section Place

variable {limit : Nat} {core rest : List Char} {power : Int}

theorem DigitRow.append {front back : List Char} (hfront : DigitRow front)
    (hback : ∀ c ∈ back, c.isDigit = true) : DigitRow (front ++ back) := by
  refine ⟨List.append_ne_nil_of_left_ne_nil hfront.1 _, fun c hc => ?_⟩
  rcases List.mem_append.mp hc with hc | hc
  · exact hfront.2 c hc
  · exact hback c hc

theorem isDigit_of_mem_zeros {count : Nat} {c : Char} (h : c ∈ List.replicate count '0') :
    c.isDigit = true := by
  rw [List.eq_of_mem_replicate h]
  rfl

/-- Zeros in front of a row of digits. -/
theorem DigitRow.zeros_append (hcore : DigitRow core) (count : Nat) :
    DigitRow (List.replicate count '0' ++ core) := by
  refine ⟨List.append_ne_nil_of_right_ne_nil _ hcore.1, fun c hc => ?_⟩
  rcases List.mem_append.mp hc with hc | hc
  · exact isDigit_of_mem_zeros hc
  · exact hcore.2 c hc

/-- A row of digits for a number above zero, without zeros in front. -/
structure Significant (core : List Char) : Prop where
  row : DigitRow core
  head : core.head? ≠ some '0'
  value : digitsValue 10 core ≠ 0

theorem Significant.wholeRow_append_zeros (hcore : Significant core) (zeros : Nat) :
    WholeRow (core ++ List.replicate zeros '0') := by
  refine ⟨hcore.row.append fun _ => isDigit_of_mem_zeros, fun hzero => absurd ?_ hcore.head⟩
  rwa [List.head?_append_of_ne_nil _ hcore.row.1] at hzero

theorem Significant.wholeRow_take (hcore : Significant core) {count : Nat} (hsome : count ≠ 0) :
    WholeRow (core.take count) := by
  refine ⟨⟨fun hnil => ?_, fun c hc => hcore.row.2 c (List.mem_of_mem_take hc)⟩, fun hzero => ?_⟩
  · rw [List.take_eq_nil_iff] at hnil
    exact hnil.elim hsome hcore.row.1
  · rw [List.head?_take, if_neg hsome] at hzero
    exact absurd hzero hcore.head

theorem DigitRow.drop (hcore : DigitRow core) {count : Nat} (hless : count < core.length) :
    DigitRow (core.drop count) := by
  refine ⟨fun hnil => ?_, fun c hc => hcore.2 c (List.mem_of_mem_drop hc)⟩
  rw [List.drop_eq_nil_iff] at hnil
  omega

theorem wholeRow_singleton {c : Char} (h : c.isDigit = true) : WholeRow [c] := by
  refine ⟨⟨List.cons_ne_nil _ _, List.forall_mem_singleton.mpr h⟩, fun hzero => ?_⟩
  rw [Option.some.inj hzero]

/-- A number with places behind the point and no power. -/
theorem unsignedNumber_places {whole digits : List Char} (hwhole : WholeRow whole)
    (hdigits : DigitRow digits) (negative : Bool) (hrest : Stops rest) :
    unsignedNumber (some limit) negative (whole ++ '.' :: (digits ++ rest))
      = .ok (.float (.ofDecimal negative (digitsValue 10 (whole ++ digits)) (0 - digits.length)),
        rest) := by
  have hfraction := fraction_digits hdigits hrest.noDigit
  rw [unsignedNumber_append hwhole (noDigit_cons (by decide) _) negative hfraction]
  simp only [hdigits.isEmpty_eq_false, Bool.false_and, Bool.false_eq_true, if_false,
    exponent?_of_stops hrest, Option.getD_none]

theorem wholeRow_zero : WholeRow ['0'] := wholeRow_singleton rfl

/-- The point stands in front of all digits. -/
theorem unsignedNumber_small (hcore : DigitRow core) (zeros : Nat) (negative : Bool)
    (hrest : Stops rest) :
    unsignedNumber (some limit) negative
        ('0' :: '.' :: (List.replicate zeros '0' ++ core) ++ rest)
      = .ok (.float (.ofDecimal negative (digitsValue 10 core) (-(zeros : Int) - core.length)),
        rest) := by
  have hvalue : digitsValue 10 (['0'] ++ (List.replicate zeros '0' ++ core))
      = digitsValue 10 core := by
    rw [← digitsValue_zeros_append (zeros + 1) core, List.replicate_succ]
    rfl
  have hpower : (0 : Int) - (List.replicate zeros '0' ++ core).length
      = -(zeros : Int) - core.length := by
    rw [List.length_append, List.length_replicate]
    omega
  have hread := @unsignedNumber_places limit rest _ _ wholeRow_zero (hcore.zeros_append zeros)
    negative hrest
  rw [hvalue, hpower] at hread
  exact hread

/-- The point stands behind all digits. -/
theorem unsignedNumber_large (hcore : Significant core) (zeros : Nat) (negative : Bool)
    (hrest : Stops rest) :
    unsignedNumber (some limit) negative
        (core ++ List.replicate zeros '0' ++ ['.', '0'] ++ rest)
      = .ok (.float (.ofDecimal negative (digitsValue 10 core) zeros), rest) := by
  have hrow : digitsValue 10 (core ++ List.replicate zeros '0' ++ ['0'])
      = digitsValue 10 core * 10 ^ (zeros + 1) := by
    rw [← digitsValue_append_zeros core (zeros + 1), List.replicate_succ', List.append_assoc]
  have hpower : (0 : Int) - ['0'].length = zeros - (zeros + 1 : Nat) := by
    rw [List.length_singleton]
    omega
  have hread := @unsignedNumber_places limit rest _ _ (hcore.wholeRow_append_zeros zeros)
    wholeRow_zero.1 negative hrest
  rw [hrow, hpower, Binary64.ofDecimal_mul_pow hcore.value] at hread
  rw [List.append_assoc]
  exact hread

/-- The point stands among the digits. -/
theorem unsignedNumber_among (hcore : Significant core) {count : Nat} (hsome : count ≠ 0)
    (hless : count < core.length) (negative : Bool) (hrest : Stops rest) :
    unsignedNumber (some limit) negative
        (core.take count ++ '.' :: core.drop count ++ rest)
      = .ok (.float (.ofDecimal negative (digitsValue 10 core) (count - (core.length : Int))),
        rest) := by
  have hpower : (0 : Int) - (core.drop count).length = count - (core.length : Int) := by
    rw [List.length_drop]
    omega
  have hread := @unsignedNumber_places limit rest _ _ (hcore.wholeRow_take hsome)
    (hcore.row.drop hless) negative hrest
  rw [List.take_append_drop, hpower] at hread
  rw [List.append_assoc, List.cons_append]
  exact hread

/-- A power stands behind the digits, and the point behind the first of them. -/
theorem unsignedNumber_power {first : Char} {others : List Char}
    (hcore : DigitRow (first :: others)) {digits : List Char} (hdigits : DigitRow digits)
    (negative below : Bool) (hrest : NoDigit rest) :
    unsignedNumber (some limit) negative
        ((match first :: others with
          | d :: e :: rest => d :: '.' :: e :: rest
          | ds => ds) ++ 'e' :: (if below then '-' else '+') :: digits ++ rest)
      = .ok (.float (.ofDecimal negative (digitsValue 10 (first :: others))
          ((if below then -(digitsValue 10 digits : Int) else digitsValue 10 digits)
            - others.length)), rest) := by
  have hfirst : WholeRow [first] := wholeRow_singleton (hcore.2 first (List.mem_cons_self ..))
  have hpower := exponent?_digits hdigits hrest below
  have hletter : NoDigit ('e' :: (if below then '-' else '+') :: (digits ++ rest)) :=
    noDigit_cons (by decide) _
  cases others with
  | nil =>
    have hfraction : fraction ('e' :: (if below then '-' else '+') :: (digits ++ rest))
        = ([], 'e' :: (if below then '-' else '+') :: (digits ++ rest)) := rfl
    have hread := @unsignedNumber_append limit _ _ hfirst hletter negative _ _ hfraction
    simp only [hpower, Option.isNone_some, Bool.and_false, Bool.false_eq_true, if_false,
      Option.getD_some, List.append_nil] at hread
    simpa only [List.append_assoc, List.cons_append, List.nil_append] using hread
  | cons second others =>
    have hplaces : DigitRow (second :: others) :=
      ⟨List.cons_ne_nil _ _, fun c hc => hcore.2 c (List.mem_cons_of_mem _ hc)⟩
    have hfraction := fraction_digits hplaces hletter
    have hread := @unsignedNumber_append limit _ _ hfirst (noDigit_cons (by decide) _) negative _ _
      hfraction
    simp only [hpower, Option.isNone_some, Bool.and_false, Bool.false_eq_true, if_false,
      Option.getD_some] at hread
    simpa only [List.append_assoc, List.cons_append, List.nil_append] using hread

/-- Wherever the point of a row of digits is put, the same number is read. -/
theorem unsignedNumber_place (layout : FloatLayout) (hcore : Significant core) (power : Int)
    (negative : Bool) (hrest : Stops rest) :
    unsignedNumber (some limit) negative (layout.place core (core.length + power) ++ rest)
      = .ok (.float (.ofDecimal negative (digitsValue 10 core) power), rest) := by
  unfold FloatLayout.place
  split
  -- In positional form the power tells how far the point is from the end of the digits.
  · split
    · rename_i hsmall
      have hpower : power = -((-(core.length + power)).toNat : Int) - core.length := by omega
      conv_rhs => rw [hpower]
      exact unsignedNumber_small hcore.row _ negative hrest
    split
    · rename_i hlarge
      have hpower : power = (((core.length + power).toNat - core.length : Nat) : Int) := by omega
      conv_rhs => rw [hpower]
      exact unsignedNumber_large hcore _ negative hrest
    · rename_i hsmall hlarge
      have hpower : power = ((core.length + power).toNat : Int) - core.length := by omega
      conv_rhs => rw [hpower]
      exact unsignedNumber_among hcore (by omega) (by omega) negative hrest
  -- With a power behind the digits, the one that is written counts from the first digit.
  · obtain ⟨first, others, rfl⟩ := List.exists_cons_of_ne_nil hcore.row.1
    -- The sign of that power is written apart from its digits.
    generalize hshown : ((first :: others).length : Int) + power - 1 = shown
    have hdigits : DigitRow (padZeros layout.exponentWidth (natChars shown.natAbs)) :=
      (wholeRow_natChars _).1.zeros_append _
    have hpadded : digitsValue 10 (padZeros layout.exponentWidth (natChars shown.natAbs))
        = shown.natAbs := by
      rw [padZeros, digitsValue_zeros_append, digitsValue_natChars]
    have hpower : power = (if shown < 0 then -(shown.natAbs : Int) else shown.natAbs)
        - others.length := by
      rw [List.length_cons] at hshown
      split <;> omega
    have hread := @unsignedNumber_power limit rest first others hcore.row _ hdigits negative
      (decide (shown < 0)) hrest.noDigit
    simp only [decide_eq_true_eq, hpadded] at hread
    rw [← hpower] at hread
    exact hread

/-- The digits that a magnitude is written with, and the power of ten that belongs to them. -/
structure Written (m : Magnitude) (core : List Char) (power : Int) : Prop where
  digits : Significant core
  text : ∀ layout : FloatLayout, layout.magnitude m = layout.place core (core.length + power)
  number : ∀ negative,
    Binary64.ofDecimal negative (digitsValue 10 core) power = .finite negative m

theorem exists_written {m : Magnitude} (hm : m.mantissa ≠ 0) :
    ∃ (core : List Char) (power : Int), Written m core power := by
  have hread : Binary64.ofDecimal false (shortest m).digits (shortest m).exponent
      = .finite false m := read_shortest hm
  generalize hd : shortest m = d at hread
  have hdigits : d.digits ≠ 0 := by
    intro hzero
    rw [hzero, Binary64.ofDecimal, if_pos rfl] at hread
    cases hread
    exact hm rfl
  -- The zeros that are not written go over to the power.
  obtain ⟨zeros, hzeros⟩ := exists_withoutTrailingZeros_append (natChars d.digits)
  generalize hcore : withoutTrailingZeros (natChars d.digits) = core at hzeros
  have hvalue : digitsValue 10 core * 10 ^ zeros = d.digits := by
    rw [← digitsValue_append_zeros, hzeros, digitsValue_natChars]
  have hnonzero : digitsValue 10 core ≠ 0 := by
    intro hzero
    rw [hzero, Nat.zero_mul] at hvalue
    exact hdigits hvalue.symm
  have hsome : core ≠ [] := by
    rintro rfl
    exact hnonzero rfl
  have hlength : (natChars d.digits).length = core.length + zeros := by
    rw [← hzeros, List.length_append, List.length_replicate]
  refine ⟨core, d.exponent + zeros, ⟨⟨hsome, fun c hc => ?_⟩, fun hzero => ?_, hnonzero⟩,
    fun layout => ?_, fun negative => ?_⟩
  · refine isDigit_of_mem_natChars (n := d.digits) ?_
    rw [← hzeros]
    exact List.mem_append_left _ hc
  · rw [← List.head?_append_of_ne_nil core hsome, hzeros] at hzero
    have hone := natChars_of_head?_eq_zero hzero
    have hvalue := digitsValue_natChars d.digits
    rw [hone] at hvalue
    exact hdigits hvalue.symm
  · have hpoint : (core.length : Int) + (d.exponent + zeros)
        = (natChars d.digits).length + d.exponent := by
      rw [hlength]
      omega
    rw [FloatLayout.magnitude, if_neg hm]
    simp only [hd, hcore, hpoint]
  · have hmoved := Binary64.ofDecimal_mul_pow hnonzero negative zeros (d.exponent + zeros)
    rw [hvalue, Int.add_sub_cancel] at hmoved
    rw [← hmoved, Binary64.ofDecimal_of_positive hread]

theorem unsignedNumber_magnitude (layout : FloatLayout) (m : Magnitude) (negative : Bool)
    (hrest : Stops rest) :
    unsignedNumber (some limit) negative (layout.magnitude m ++ rest)
      = .ok (.float (.finite negative m), rest) := by
  by_cases hm : m.mantissa = 0
  · rw [FloatLayout.magnitude, if_pos hm, Magnitude.eq_zero_of_mantissa_eq_zero hm]
    exact unsignedNumber_places wholeRow_zero wholeRow_zero.1 negative hrest
  · obtain ⟨core, power, hwritten⟩ := exists_written hm
    rw [hwritten.text, unsignedNumber_place layout hwritten.digits power negative hrest,
      hwritten.number]

/-- A row of digits with a point begins with a digit. -/
theorem exists_place_eq_cons (layout : FloatLayout) (hcore : DigitRow core) (point : Int) :
    ∃ c others, layout.place core point = c :: others ∧ c.isDigit = true := by
  obtain ⟨first, others, rfl⟩ := List.exists_cons_of_ne_nil hcore.1
  have hfirst := hcore.2 first (List.mem_cons_self ..)
  unfold FloatLayout.place
  split
  · split
    · exact ⟨_, _, rfl, rfl⟩
    split
    · exact ⟨first, _, rfl, hfirst⟩
    · rename_i hsmall _
      obtain ⟨less, hless⟩ : ∃ less, point.toNat = less + 1 := ⟨point.toNat - 1, by omega⟩
      rw [hless]
      exact ⟨first, _, rfl, hfirst⟩
  · cases others with
    | nil => exact ⟨first, _, rfl, hfirst⟩
    | cons second others => exact ⟨first, _, rfl, hfirst⟩

theorem exists_magnitude_eq_cons (layout : FloatLayout) (m : Magnitude) :
    ∃ c others, layout.magnitude m = c :: others ∧ c.isDigit = true := by
  by_cases hm : m.mantissa = 0
  · rw [FloatLayout.magnitude, if_pos hm]
    exact ⟨_, _, rfl, rfl⟩
  · obtain ⟨core, power, hwritten⟩ := exists_written hm
    rw [hwritten.text]
    exact exists_place_eq_cons layout hwritten.digits.row _

end Place

/-! ## Reading one number -/

/-- A text is read as a value, with whatever stands behind it left over. -/
def ReadsAs (limit : Nat) (cs : List Char) (v : Datum) : Prop :=
  ∀ fuel rest, cs.length < fuel → Stops rest →
    value (some limit) fuel (cs ++ rest) = .ok (v, rest)

variable {limit : Nat}

/-- Fuel is never empty. -/
theorem exists_fuel {n fuel : Nat} (h : n < fuel) : ∃ less, fuel = less + 1 ∧ n ≤ less :=
  ⟨fuel - 1, by omega, by omega⟩

theorem mem_of_isDigit {c : Char} (h : c.isDigit = true) :
    c ∈ ['0', '1', '2', '3', '4', '5', '6', '7', '8', '9'] := by
  obtain ⟨hlow, hhigh⟩ := Char.isDigit_iff_toNat.mp h
  have hlow' : 48 ≤ c.toNat := hlow
  have hhigh' : c.toNat ≤ 57 := hhigh
  rw [← Char.ofNat_toNat c]
  generalize c.toNat = n at hlow' hhigh'
  interval_cases n <;> decide

theorem value_of_isDigit {c : Char} (h : c.isDigit = true) (fuel : Nat) (rest : List Char) :
    value (some limit) (fuel + 1) (c :: rest) = unsignedNumber (some limit) false (c :: rest)
      ∧ value (some limit) (fuel + 1) ('-' :: c :: rest)
        = unsignedNumber (some limit) true (c :: rest) := by
  have hc := mem_of_isDigit h
  simp only [List.mem_cons, List.not_mem_nil, or_false] at hc
  rcases hc with rfl | rfl | rfl | rfl | rfl | rfl | rfl | rfl | rfl | rfl <;> exact ⟨rfl, rfl⟩

/-- A text that begins with a digit is read as a number, with a minus before it or not. -/
theorem readsAs_signed {negative : Bool} {cs : List Char} {v : Datum}
    (hdigit : ∃ c others, cs = c :: others ∧ c.isDigit = true)
    (h : ∀ rest, Stops rest →
      unsignedNumber (some limit) negative (cs ++ rest) = .ok (v, rest)) :
    ReadsAs limit ((if negative then ['-'] else []) ++ cs) v := by
  intro fuel rest hfuel hrest
  obtain ⟨fuel, rfl, -⟩ := exists_fuel hfuel
  obtain ⟨c, others, rfl, hc⟩ := hdigit
  have hread := h rest hrest
  cases negative with
  | false =>
    rw [List.cons_append, ← (value_of_isDigit hc fuel _).1] at hread
    exact hread
  | true =>
    rw [List.cons_append, ← (value_of_isDigit hc fuel _).2] at hread
    exact hread

/-! ## Integers -/

/-- The digits of a number begin with a digit. -/
theorem exists_natChars_eq_cons (n : Nat) :
    ∃ c rest, natChars n = c :: rest ∧ c.isDigit = true := by
  obtain ⟨c, rest, hdigits⟩ := List.exists_cons_of_ne_nil (wholeRow_natChars n).1.1
  refine ⟨c, rest, hdigits, (wholeRow_natChars n).1.2 c ?_⟩
  rw [hdigits]
  exact List.mem_cons_self ..

/-- The digits of a number within the limit are read back as that number. -/
theorem unsignedNumber_natChars {n : Nat} (hlimit : 0 < limit) (hn : n < 10 ^ limit)
    (negative : Bool) {rest : List Char} (h : Stops rest) :
    unsignedNumber (some limit) negative (natChars n ++ rest)
      = .ok (.int (if negative then -n else n), rest) := by
  have hlength : (natChars n).length ≤ limit :=
    (Nat.length_toDigits_le_iff (by decide) hlimit).mpr hn
  rw [unsignedNumber_append (wholeRow_natChars n) h.noDigit negative (fraction_of_stops h)]
  simp only [exponent?_of_stops h, List.isEmpty_nil, Option.isNone_none, Bool.and_self, if_true,
    if_neg (Nat.not_lt.mpr hlength), digitsValue_natChars]

theorem readsAs_intChars (hlimit : 0 < limit) {n : Int} (h : n.natAbs < 10 ^ limit) :
    ReadsAs limit (intChars n) (.int n) := by
  cases n with
  | ofNat n =>
    exact @readsAs_signed limit false _ _ (exists_natChars_eq_cons n)
      fun rest hrest => unsignedNumber_natChars hlimit h false hrest
  | negSucc n =>
    exact @readsAs_signed limit true _ _ (exists_natChars_eq_cons (n + 1))
      fun rest hrest => unsignedNumber_natChars hlimit h true hrest

/-! ## Binary numbers as values -/

/-- Every binary number is read back, the special ones by their names. -/
theorem readsAs_numberChars (x : Binary64) : ReadsAs limit (numberLayout.chars x) (.float x) := by
  cases x with
  | nan =>
    intro fuel rest hfuel _
    obtain ⟨fuel, rfl, -⟩ := exists_fuel hfuel
    rfl
  | infinite negative =>
    intro fuel rest hfuel _
    obtain ⟨fuel, rfl, -⟩ := exists_fuel hfuel
    cases negative with
    | false => rfl
    | true => rfl
  | finite negative m =>
    exact readsAs_signed (exists_magnitude_eq_cons numberLayout m)
      fun rest hrest => unsignedNumber_magnitude numberLayout m negative hrest

end LintBroker.Json
