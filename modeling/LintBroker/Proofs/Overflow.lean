/-
  LintBroker.Proofs.Overflow

  Whole numbers beyond the binary ones.  A mantissa is rounded to the nearest one, so
  a whole number is lost exactly when rounding carries it to two to the power 1024, half
  a unit of the greatest finite number before that power is reached:
  `ofInt?_eq_none_iff`.
-/
import LintBroker.Number.Binary64
import Mathlib.Algebra.Order.Ring.Nat
import Mathlib.Tactic.Linarith
import Mathlib.Tactic.Ring

namespace LintBroker.Number

namespace Magnitude

/-! ## Rounding a quotient -/

theorem divideNearest_le_succ (num den : Nat) : divideNearest num den ≤ num / den + 1 := by
  simp only [divideNearest]
  split <;> omega

theorem div_le_divideNearest (num den : Nat) : num / den ≤ divideNearest num den := by
  simp only [divideNearest]
  split <;> omega

/-- A quotient is rounded to an even number or beyond it from one half below that number on. -/
theorem le_divideNearest_iff {num den n : Nat} (hden : 0 < den) (heven : n % 2 = 0) :
    n ≤ divideNearest num den ↔ 2 * n * den ≤ 2 * num + den := by
  have hnum : den * (num / den) + num % den = num := Nat.div_add_mod num den
  have hrest : num % den < den := Nat.mod_lt num hden
  simp only [divideNearest, Bool.or_eq_true, Bool.and_eq_true, decide_eq_true_eq, beq_iff_eq]
  generalize num / den = q at *
  generalize num % den = r at *
  subst hnum
  rcases Nat.lt_trichotomy n (q + 1) with hlow | rfl | hhigh
  · refine iff_of_true ?_ ?_
    · split <;> omega
    · have hle : n * den ≤ q * den := Nat.mul_le_mul_right den (Nat.le_of_lt_succ hlow)
      linarith [Nat.mul_comm den q]
  · -- The quotient is odd, so a tie is rounded up.
    have hodd : q % 2 = 1 := by omega
    have hhalf : 2 * (q + 1) * den ≤ 2 * (den * q + r) + den ↔ den ≤ 2 * r := by
      constructor <;> intro h <;> linarith [Nat.mul_comm den q]
    rw [hhalf]
    split <;> omega
  · refine iff_of_false ?_ ?_
    · split <;> omega
    · intro h
      have hle : (q + 2) * den ≤ n * den := Nat.mul_le_mul_right den hhigh
      linarith [Nat.mul_comm den q]

/-! ## Magnitudes of whole numbers -/

/-- The exponent with which a number of units has its mantissa. -/
def exponentOf (units : Nat) : Nat := units.log2 - 52

theorem divideNearest_exponentOf_le (units : Nat) :
    divideNearest units (2 ^ exponentOf units) ≤ 2 ^ 53 := by
  have hlt : units < 2 ^ 53 * 2 ^ exponentOf units := by
    rw [← Nat.pow_add]
    refine Nat.lt_of_lt_of_le Nat.lt_log2_self (Nat.pow_le_pow_right Nat.two_pos ?_)
    unfold exponentOf
    omega
  have hquotient : units / 2 ^ exponentOf units < 2 ^ 53 :=
    (Nat.div_lt_iff_lt_mul (Nat.two_pow_pos _)).mpr hlt
  exact Nat.le_trans (divideNearest_le_succ _ _) hquotient

theorem le_divideNearest_exponentOf {units : Nat} (h : exponentOf units ≠ 0) :
    2 ^ 52 ≤ divideNearest units (2 ^ exponentOf units) := by
  refine Nat.le_trans ?_ (div_le_divideNearest _ _)
  rw [Nat.le_div_iff_mul_le (Nat.two_pow_pos _), ← Nat.pow_add]
  have hne : units ≠ 0 := by
    rintro rfl
    exact h rfl
  refine Nat.le_trans (Nat.pow_le_pow_right Nat.two_pos ?_) (Nat.log2_self_le hne)
  unfold exponentOf at h ⊢
  omega

/-- There is no magnitude for a number of units when its mantissa does not fit its exponent, and the
    next exponent is too large. -/
theorem nearest?_one_eq_none_iff_not (units : Nat) :
    nearest? units 1 = none ↔
      ¬ (divideNearest units (2 ^ exponentOf units) < 2 ^ 53
        ∧ (exponentOf units = 0 ∨ 2 ^ 52 ≤ divideNearest units (2 ^ exponentOf units))
        ∧ exponentOf units ≤ 2045)
      ∧ ¬ exponentOf units + 1 ≤ 2045 := by
  unfold exponentOf
  simp only [nearest?, Nat.div_one, Nat.one_mul, Nat.pow_eq]
  split
  · rename_i h
    exact iff_of_false (Option.some_ne_none _) fun hnot => hnot.1 h
  · rename_i hfit
    split
    · rename_i h
      exact iff_of_false (Option.some_ne_none _) fun hnot => hnot.2 h
    · rename_i hnext
      exact iff_of_true rfl ⟨hfit, hnext⟩

/-- An exponent is reached with as many bits. -/
theorem succ_le_exponentOf_iff {units e : Nat} :
    e + 1 ≤ exponentOf units ↔ 2 ^ (53 + e) ≤ units := by
  by_cases hzero : units = 0
  · subst hzero
    refine iff_of_false (Nat.not_succ_le_zero e) ?_
    rw [Nat.not_le]
    exact Nat.two_pow_pos _
  · rw [← Nat.le_log2 hzero]
    unfold exponentOf
    omega

/-- A number of units passes an exponent, on its own or by rounding, from half a unit of the mantissas
    below the next power of two on. -/
theorem exponentOf_passes_iff (units : Nat) {e half : Nat} (hhalf : half = 2 ^ e) :
    e + 1 < exponentOf units
        ∨ exponentOf units = e + 1 ∧ divideNearest units (2 ^ exponentOf units) = 2 ^ 53
      ↔ 2 ^ 54 * half ≤ units + half := by
  subst hhalf
  have hmost := divideNearest_exponentOf_le units
  have hreaches := @succ_le_exponentOf_iff units e
  have hpasses := @succ_le_exponentOf_iff units (e + 1)
  have hcarries := @le_divideNearest_iff units (2 ^ (e + 1)) (2 ^ 53) (Nat.two_pow_pos _) (by decide)
  have hpos : 0 < 2 ^ e := Nat.two_pow_pos e
  rw [Nat.pow_succ] at hcarries
  rw [Nat.pow_add] at hreaches
  rw [show 53 + (e + 1) = 54 + e by omega, Nat.pow_add] at hpasses
  constructor
  · rintro (hlt | ⟨heq, hfull⟩)
    · have := hpasses.mp hlt
      omega
    · rw [heq, Nat.pow_succ] at hfull
      have hcarried := hcarries.mp (Nat.le_of_eq hfull.symm)
      omega
  · intro h
    have hreached : e + 1 ≤ exponentOf units := hreaches.mpr (by omega)
    rcases Nat.lt_or_eq_of_le hreached with hlt | heq
    · exact Or.inl hlt
    · refine Or.inr ⟨heq.symm, ?_⟩
      rw [← heq, Nat.pow_succ] at hmost ⊢
      exact Nat.le_antisymm hmost (hcarries.mpr (by omega))

/-- There is no magnitude for a number of units that passes the largest exponent. -/
theorem nearest?_one_eq_none_iff (units : Nat) :
    nearest? units 1 = none
      ↔ 2 ^ 54 * (unitsPerOne * 2 ^ 970) ≤ units + unitsPerOne * 2 ^ 970 := by
  have hhalf : unitsPerOne * 2 ^ 970 = 2 ^ 2044 := by decide +kernel
  have hmost := divideNearest_exponentOf_le units
  have hleast := @le_divideNearest_exponentOf units
  rw [nearest?_one_eq_none_iff_not, ← exponentOf_passes_iff units hhalf]
  omega

end Magnitude

/-! ## Whole numbers -/

namespace Binary64

/-- The first whole number that is beyond the finite ones: half a unit of the greatest of them below
    two to the power 1024. -/
def firstBeyond : Nat := (2 ^ 54 - 1) * 2 ^ 970

/-- A whole number has no binary number exactly if it is beyond the finite ones, above or below
    zero. -/
theorem ofInt?_eq_none_iff {n : Int} : ofInt? n = none ↔ firstBeyond ≤ n.natAbs := by
  have hnearest : ofInt? n = none
      ↔ Magnitude.nearest? (Magnitude.unitsPerOne * n.natAbs) 1 = none := by
    unfold ofInt? ofRatio
    cases Magnitude.nearest? (Magnitude.unitsPerOne * n.natAbs) 1 with
    | none => simp
    | some m => simp
  have hone : 0 < Magnitude.unitsPerOne := by decide +kernel
  rw [hnearest, Magnitude.nearest?_one_eq_none_iff, firstBeyond]
  generalize Magnitude.unitsPerOne = one at *
  generalize 2 ^ 970 = half
  have hsplit : 2 ^ 54 * (one * half) = one * ((2 ^ 54 - 1) * half) + one * half := by ring
  rw [hsplit, Nat.add_le_add_iff_right, Nat.mul_le_mul_left_iff hone]

end Binary64

end LintBroker.Number
