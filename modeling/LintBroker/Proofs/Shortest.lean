/-
  LintBroker.Proofs.Shortest

  The decimal that a binary number is written with reads back as that number.  Zeros
  that move between the digits of a decimal and its power of ten change nothing
  (`ofDecimal_mul_pow`), so the digits that are written may have a point anywhere.
-/
import LintBroker.Number.Shortest
import LintBroker.Proofs.Overflow

namespace LintBroker.Number

/-! ## Ratios -/

namespace Magnitude

theorem divideNearest_mul_left {k : Nat} (hk : 0 < k) (num den : Nat) :
    divideNearest (k * num) (k * den) = divideNearest num den := by
  have hlt : k * den < 2 * (k * (num % den)) ↔ den < 2 * (num % den) := by
    rw [Nat.mul_left_comm 2 k]
    exact Nat.mul_lt_mul_left hk
  have heq : 2 * (k * (num % den)) = k * den ↔ 2 * (num % den) = den := by
    rw [Nat.mul_left_comm 2 k]
    exact Nat.mul_right_inj (Nat.ne_of_gt hk)
  simp only [divideNearest, Nat.mul_div_mul_left _ _ hk, Nat.mul_mod_mul_left, hlt, beq_eq_decide,
    heq]

/-- A quotient without a rest is not rounded. -/
theorem divideNearest_mul_right {n den : Nat} (hden : 0 < den) :
    divideNearest (n * den) den = n := by
  simp only [divideNearest, Nat.mul_div_cancel n hden, Nat.mul_mod_left]
  rw [if_neg]
  simp
  omega

theorem nearest?_mul_left {k : Nat} (hk : 0 < k) (num den : Nat) :
    nearest? (k * num) (k * den) = nearest? num den := by
  simp only [nearest?, Nat.mul_div_mul_left _ _ hk, Nat.mul_assoc, divideNearest_mul_left hk]

/-- A magnitude has the exponent that its units call for. -/
theorem exponentOf_units (m : Magnitude) : exponentOf m.units = m.exponent := by
  have hlt := m.mantissa_lt
  rcases m.normal with hzero | hnormal
  · have hunits : m.units = m.mantissa := by
      rw [units, hzero]
      exact Nat.mul_one _
    rw [exponentOf, hunits, hzero]
    by_cases hm : m.mantissa = 0
    · rw [hm]
      rfl
    · have hlog : m.mantissa.log2 < 53 := (Nat.log2_lt hm).mpr hlt
      omega
  · have hunits : m.units = m.mantissa * 2 ^ m.exponent := rfl
    have hpos : 0 < 2 ^ m.exponent := Nat.two_pow_pos _
    have hne : m.units ≠ 0 := by
      rw [hunits]
      exact Nat.ne_of_gt (Nat.mul_pos (Nat.lt_of_lt_of_le (Nat.two_pow_pos 52) hnormal) hpos)
    have hlow : 52 + m.exponent ≤ m.units.log2 := by
      rw [Nat.le_log2 hne, Nat.pow_add, hunits]
      exact Nat.mul_le_mul_right _ hnormal
    have hhigh : m.units.log2 < 53 + m.exponent := by
      rw [Nat.log2_lt hne, Nat.pow_add, hunits]
      exact Nat.mul_lt_mul_of_pos_right hlt hpos
    rw [exponentOf]
    omega

/-- The units of a magnitude are rounded to that magnitude. -/
theorem nearest?_units (m : Magnitude) : nearest? m.units 1 = some m := by
  have hexponent : m.units.log2 - 52 = m.exponent := exponentOf_units m
  have hmantissa : divideNearest m.units (Nat.pow 2 m.exponent) = m.mantissa :=
    divideNearest_mul_right (Nat.two_pow_pos _)
  simp only [nearest?, Nat.div_one, Nat.one_mul, hexponent, hmantissa]
  exact dif_pos ⟨m.mantissa_lt, m.normal, m.exponent_le⟩

theorem eq_zero_of_mantissa_eq_zero {m : Magnitude} (h : m.mantissa = 0) : m = zero := by
  obtain ⟨mantissa, exponent, hlt, hnormal, hle⟩ := m
  have hexponent : exponent = 0 := by
    refine hnormal.resolve_right fun hbig => ?_
    rw [show mantissa = 0 from h] at hbig
    exact absurd hbig (by decide)
  subst hexponent
  cases h
  rfl

end Magnitude

namespace Binary64

theorem ofRatio_mul_left {k : Nat} (hk : 0 < k) (negative : Bool) (num den : Nat) :
    ofRatio negative (k * num) (k * den) = ofRatio negative num den := by
  unfold ofRatio
  rw [Nat.mul_left_comm, Magnitude.nearest?_mul_left hk]

/-- A ratio that is a whole number of units is rounded to their magnitude. -/
theorem ofRatio_of_units {num den : Nat} {m : Magnitude} (hden : 0 < den)
    (h : Magnitude.unitsPerOne * num = den * m.units) : ofRatio false num den = .finite false m := by
  have hnearest := Magnitude.nearest?_mul_left hden m.units 1
  rw [Nat.mul_one, Magnitude.nearest?_units] at hnearest
  unfold ofRatio
  rw [h, hnearest]

/-- The sign of a ratio is that of its value. -/
theorem ofRatio_of_positive {num den : Nat} {m : Magnitude}
    (h : ofRatio false num den = .finite false m) (negative : Bool) :
    ofRatio negative num den = .finite negative m := by
  unfold ofRatio at h ⊢
  cases hnearest : Magnitude.nearest? (Magnitude.unitsPerOne * num) den with
  | none =>
    rw [hnearest] at h
    cases h
  | some found =>
    rw [hnearest] at h
    cases h
    rfl

/-! ## Decimals -/

theorem toDigits_mul_ten {n : Nat} (hn : n ≠ 0) :
    Nat.toDigits 10 (n * 10) = Nat.toDigits 10 n ++ ['0'] := by
  rw [Nat.toDigits_of_base_le (by decide) (by omega), Nat.mul_div_cancel n (by decide),
    Nat.mul_mod_left]
  rfl

theorem length_toDigits_mul_pow {n : Nat} (hn : n ≠ 0) (k : Nat) :
    (Nat.toDigits 10 (n * 10 ^ k)).length = (Nat.toDigits 10 n).length + k := by
  induction k with
  | zero => simp
  | succ k ih =>
    have hne : n * 10 ^ k ≠ 0 := Nat.mul_ne_zero hn (Nat.ne_of_gt (Nat.pow_pos (by decide)))
    rw [Nat.pow_succ, ← Nat.mul_assoc, toDigits_mul_ten hne, List.length_append, ih]
    rfl

/-- Zeros at the end of the digits stand for powers of ten. -/
theorem ofDecimal_mul_pow {n : Nat} (hn : n ≠ 0) (negative : Bool) (k : Nat) (power : Int) :
    ofDecimal negative (n * 10 ^ k) (power - k) = ofDecimal negative n power := by
  have hk : 0 < 10 ^ k := Nat.pow_pos (by decide)
  have hne : n * 10 ^ k ≠ 0 := Nat.mul_ne_zero hn (Nat.ne_of_gt hk)
  have hpoint : (((Nat.toDigits 10 (n * 10 ^ k)).length : Nat) : Int) + (power - k)
      = (Nat.toDigits 10 n).length + power := by
    rw [length_toDigits_mul_pow hn]
    omega
  have hratio : (if 0 ≤ power - k then ofRatio negative (n * 10 ^ k * 10 ^ (power - k).toNat) 1
        else ofRatio negative (n * 10 ^ k) (10 ^ (-(power - k)).toNat))
      = if 0 ≤ power then ofRatio negative (n * 10 ^ power.toNat) 1
        else ofRatio negative n (10 ^ (-power).toNat) := by
    by_cases hpower : 0 ≤ power
    · obtain ⟨p, rfl⟩ := Int.eq_ofNat_of_zero_le hpower
      rw [if_pos hpower]
      -- The zeros may be more than the power: then both parts of the ratio have them.
      by_cases hless : 0 ≤ (p : Int) - k
      · have hsum : k + ((p : Int) - k).toNat = p := by omega
        rw [if_pos hless, Nat.mul_assoc, ← Nat.pow_add, hsum]
        rfl
      · have hsum : p + (-((p : Int) - k)).toNat = k := by omega
        have hsplit : 10 ^ k = 10 ^ p * 10 ^ (-((p : Int) - k)).toNat := by
          rw [← Nat.pow_add, hsum]
        rw [if_neg hless, hsplit, ← Nat.mul_assoc, Nat.mul_comm _ (10 ^ (-((p : Int) - k)).toNat)]
        have hscaled := ofRatio_mul_left (Nat.pow_pos (by decide) :
          0 < 10 ^ (-((p : Int) - k)).toNat) negative (n * 10 ^ p) 1
        rw [Nat.mul_one] at hscaled
        exact hscaled
    · have hless : ¬ 0 ≤ power - k := by omega
      have hsum : (-(power - k)).toNat = k + (-power).toNat := by omega
      rw [if_neg hpower, if_neg hless, hsum, Nat.pow_add, Nat.mul_comm n]
      exact ofRatio_mul_left hk negative n _
  simp only [ofDecimal, if_neg hn, if_neg hne, hpoint, Nat.pow_eq, hratio]

/-- The sign of a decimal is that of its value. -/
theorem ofDecimal_of_positive {n : Nat} {power : Int} {m : Magnitude}
    (h : ofDecimal false n power = .finite false m) (negative : Bool) :
    ofDecimal negative n power = .finite negative m := by
  unfold ofDecimal at h ⊢
  simp only at h ⊢
  split at h
  · rw [if_pos ‹_›]
    cases h
    rfl
  rw [if_neg ‹_›]
  split at h
  · cases h
  rw [if_neg ‹_›]
  split at h
  · rw [if_pos ‹_›]
    cases h
    rfl
  rw [if_neg ‹_›]
  split at h
  · rw [if_pos ‹_›]
    exact ofRatio_of_positive h negative
  · rw [if_neg ‹_›]
    exact ofRatio_of_positive h negative

end Binary64

/-! ## Reading back -/

/-- The first of three that passes a test passes it. -/
theorem of_first_of_three {α : Type} {test : α → Bool} {a b c d : α}
    (h : (if test a then some a else if test b then some b else if test c then some c else none)
      = some d) : test d = true := by
  split at h
  · rename_i htest
    exact Option.some.inj h ▸ htest
  split at h
  · rename_i htest
    exact Option.some.inj h ▸ htest
  split at h
  · rename_i htest
    exact Option.some.inj h ▸ htest
  · cases h

/-- A neighbour that was found reads back. -/
theorem read_of_neighbour? {m : Magnitude} {exponent : Int} {d : Decimal}
    (h : neighbour? m exponent = some d) : d.read = .finite false m := by
  unfold neighbour? at h
  exact eq_of_beq (@of_first_of_three _ (fun d : Decimal => d.read == .finite false m) _ _ _ d h)

/-- A decimal is rounded as a ratio if its first digit is within the bounds. -/
theorem ofDecimal_eq_ofRatio {n places : Nat} (hplaces : places ≠ 0) (hn : n ≠ 0)
    (hlow : places ≤ (Nat.toDigits 10 n).length + 330)
    (hhigh : (Nat.toDigits 10 n).length ≤ places + 310) :
    Binary64.ofDecimal false n (-(places : Int)) = .ofRatio false n (10 ^ places) := by
  have hnegative : ¬ 0 ≤ -(places : Int) := by omega
  have hback : (- -(places : Int)).toNat = places := by omega
  simp only [Binary64.ofDecimal]
  rw [if_neg hn, if_neg (by omega), if_neg (by omega), if_neg hnegative, hback]
  rfl

theorem Magnitude.units_lt {m : Magnitude} {e : Nat} (h : m.exponent ≤ e) :
    m.units < 2 ^ 53 * 2 ^ e :=
  calc m.units = m.mantissa * 2 ^ m.exponent := rfl
    _ < 2 ^ 53 * 2 ^ m.exponent := Nat.mul_lt_mul_of_pos_right m.mantissa_lt (Nat.two_pow_pos _)
    _ ≤ 2 ^ 53 * 2 ^ e := Nat.mul_le_mul_left _ (Nat.pow_le_pow_right (by decide) h)

/-- All digits of a magnitude read back: they are its units over a power of ten. -/
theorem read_exactDecimal {m : Magnitude} (hm : m.mantissa ≠ 0) :
    (exactDecimal m).read = .finite false m := by
  -- The powers stay behind names, or they would be evaluated.
  obtain ⟨places, hplaces⟩ : ∃ places, places = 1074 := ⟨_, rfl⟩
  obtain ⟨most, hmost⟩ : ∃ most, most = 2045 := ⟨_, rfl⟩
  obtain ⟨low, hlowPower⟩ : ∃ low, low = 743 := ⟨_, rfl⟩
  obtain ⟨high, hhighPower⟩ : ∃ high, high = 1384 := ⟨_, rfl⟩
  have hread : (exactDecimal m).read
      = .ofDecimal false (m.units * 5 ^ places) (-(places : Int)) := by
    have hpower : (-1074 : Int) = -(places : Int) := by omega
    rw [Decimal.read, exactDecimal, hpower, ← hplaces]
    rfl
  have hone : Magnitude.unitsPerOne = 2 ^ places := by
    unfold Magnitude.unitsPerOne
    rw [← hplaces]
    rfl
  have hunits : 0 < m.units := Nat.mul_pos (Nat.pos_of_ne_zero hm) (Nat.two_pow_pos _)
  have hfive : 0 < 5 ^ places := Nat.pow_pos (by decide)
  have hten : 0 < 10 ^ places := Nat.pow_pos (by decide)
  have hne : m.units * 5 ^ places ≠ 0 := Nat.ne_of_gt (Nat.mul_pos hunits hfive)
  have hlow : low < (Nat.toDigits 10 (m.units * 5 ^ places)).length := by
    have hpower : 10 ^ low ≤ 5 ^ places := by
      subst hplaces hlowPower
      decide +kernel
    rw [← Nat.not_le, Nat.length_toDigits_le_iff (by decide) (by omega), Nat.not_lt]
    exact Nat.le_trans hpower (Nat.le_mul_of_pos_left _ hunits)
  have hhigh : (Nat.toDigits 10 (m.units * 5 ^ places)).length ≤ high := by
    have hpower : 2 ^ 53 * 2 ^ most * 5 ^ places ≤ 10 ^ high := by
      subst hplaces hmost hhighPower
      decide +kernel
    rw [Nat.length_toDigits_le_iff (by decide) (by omega)]
    calc m.units * 5 ^ places
        < 2 ^ 53 * 2 ^ most * 5 ^ places :=
          Nat.mul_lt_mul_of_pos_right (Magnitude.units_lt (hmost ▸ m.exponent_le)) hfive
      _ ≤ 10 ^ high := hpower
  have hscaled : Magnitude.unitsPerOne * (m.units * 5 ^ places) = 10 ^ places * m.units := by
    rw [hone, Nat.mul_left_comm, ← Nat.mul_pow, Nat.mul_comm]
  rw [hread, ofDecimal_eq_ofRatio (by omega) hne (by omega) (by omega)]
  exact Binary64.ofRatio_of_units hten hscaled

/-- The decimal that a magnitude is written with reads back. -/
theorem read_shortest {m : Magnitude} (hm : m.mantissa ≠ 0) :
    (shortest m).read = .finite false m := by
  unfold shortest
  simp only
  cases hfound : (List.range 17).findSome? fun n =>
      neighbour? m (decimalPoint m.units Magnitude.unitsPerOne - ((n : Nat) + 1 : Int)) with
  | none => exact read_exactDecimal hm
  | some d =>
    obtain ⟨n, -, hneighbour⟩ := List.exists_of_findSome?_eq_some hfound
    exact read_of_neighbour? hneighbour

/-! ## Zeros at the end -/

/-- The digits that are written are all but zeros at the end. -/
theorem exists_withoutTrailingZeros_append (digits : List Char) :
    ∃ count, withoutTrailingZeros digits ++ List.replicate count '0' = digits := by
  refine ⟨(digits.reverse.takeWhile (· == '0')).length, ?_⟩
  have hzeros : digits.reverse.takeWhile (· == '0')
      = List.replicate (digits.reverse.takeWhile (· == '0')).length '0' := by
    refine List.eq_replicate_iff.mpr ⟨rfl, fun c hc => ?_⟩
    exact eq_of_beq (List.all_eq_true.mp List.all_takeWhile c hc)
  rw [withoutTrailingZeros, ← List.reverse_replicate, ← hzeros, ← List.reverse_append,
    List.takeWhile_append_dropWhile, List.reverse_reverse]

end LintBroker.Number
