import Mathlib
import RequestValidation.Proofs.Decimal.Digits
import RequestValidation.Proofs.Decimal.Rounding
/-!
# The size of numerals

A numeral stands for a rational number, and its value is the binary64 number nearest to that. The
short cuts for exponents that are far out change nothing, so the value is finite just if the number
lies below the middle between the largest binary64 number and the power of two behind it.

Results:
* `Extended64.ofDecimal_eq`: a decimal number is rounded once, whatever its exponent is.
* `Numeral.value_finite_iff`: the numerals with a finite value.
-/
namespace RequestValidation

theorem ten_pow_le_two_pow (n : Nat) : 10 ^ (n * 3 / 10) ≤ 2 ^ n := by
  have hten : ((10 : Nat) ^ (n * 3 / 10)) ^ 10 ≤ (2 ^ n) ^ 10 := by
    calc ((10 : Nat) ^ (n * 3 / 10)) ^ 10 = 10 ^ (n * 3 / 10 * 10) := (Nat.pow_mul ..).symm
      _ ≤ 10 ^ (3 * n) := Nat.pow_le_pow_right (by decide) (by omega)
      _ = (10 ^ 3) ^ n := Nat.pow_mul ..
      _ ≤ (2 ^ 10) ^ n := Nat.pow_le_pow_left (by norm_num) n
      _ = (2 ^ n) ^ 10 := by rw [← Nat.pow_mul, ← Nat.pow_mul, Nat.mul_comm]
  exact (Nat.pow_le_pow_iff_left (by decide)).mp hten

theorem two_pow_le_ten_pow {m n : Nat} (h : m ≤ 3 * n) : 2 ^ m ≤ 10 ^ n := by
  calc 2 ^ m ≤ 2 ^ (3 * n) := Nat.pow_le_pow_right (by decide) h
    _ = (2 ^ 3) ^ n := Nat.pow_mul ..
    _ ≤ 10 ^ n := Nat.pow_le_pow_left (by norm_num) n

namespace Extended64

open Binary64 (unitExponent overflowUnits)

/-- The binary exponent of the first number that is too large. -/
def overflowExponent : Nat := 1024

theorem overflowUnits_eq : overflowUnits = 2 ^ (overflowExponent + unitExponent) := by
  have hsum : 2098 = overflowExponent + unitExponent := rfl
  unfold overflowUnits
  simp only [hsum, Nat.pow_eq]

theorem overflowUnits_pos : 0 < overflowUnits := by
  rw [overflowUnits_eq]
  exact Nat.two_pow_pos _

theorem scaled_lt_overflow_iff {n : Nat} :
    n * Nat.pow 2 unitExponent < overflowUnits ↔ n < 2 ^ overflowExponent := by
  rw [overflowUnits_eq, Nat.pow_eq]
  generalize unitExponent = k
  rw [Nat.pow_add, Nat.mul_lt_mul_right (Nat.two_pow_pos k)]

theorem ofUnits_of_lt {negative : Bool} {units : Nat} (h : units < overflowUnits) :
    ofUnits negative units = .finite ⟨negative, units⟩ := if_pos h

theorem ofUnits_of_le {negative : Bool} {units : Nat} (h : overflowUnits ≤ units) :
    ofUnits negative units = .infinite negative := if_neg (Nat.not_lt.mpr h)

variable {digits : Nat} {exponent : Int}

/-- The units of a decimal number, rounded. -/
def decimalUnits (digits : Nat) (exponent : Int) : Nat :=
  roundToPrecision (digits * 10 ^ exponent.toNat * 2 ^ unitExponent) (10 ^ (-exponent).toNat)

theorem decimalUnits_overflow (hzero : digits ≠ 0)
    (h : 400 < (digits.log2 * 3 / 10 : Nat) + exponent) :
    overflowUnits ≤ decimalUnits digits exponent := by
  have hdigits : 10 ^ (digits.log2 * 3 / 10) ≤ digits :=
    Nat.le_trans (ten_pow_le_two_pow _) (Nat.log2_self_le hzero)
  generalize digits.log2 * 3 / 10 = c at h hdigits
  obtain ⟨far, hfar⟩ : ∃ far, c + exponent.toNat = (-exponent).toNat + far :=
    Nat.exists_eq_add_of_le (by omega)
  have htop : overflowExponent ≤ 3 * far := by
    unfold overflowExponent
    omega
  rw [overflowUnits_eq]
  refine two_pow_le_roundToPrecision (Nat.pow_pos (by decide)) ?_
  rw [Nat.pow_add, ← Nat.mul_assoc]
  refine Nat.mul_le_mul_right _ ?_
  calc 10 ^ (-exponent).toNat * 2 ^ overflowExponent
      ≤ 10 ^ (-exponent).toNat * 10 ^ far := Nat.mul_le_mul_left _ (two_pow_le_ten_pow htop)
    _ = 10 ^ c * 10 ^ exponent.toNat := by rw [← Nat.pow_add, ← Nat.pow_add, hfar]
    _ ≤ digits * 10 ^ exponent.toNat := Nat.mul_le_mul_right _ hdigits

/-- Less than half a unit is rounded to nothing. -/
theorem roundToPrecision_eq_zero {p q : Nat} (h : 2 * p < q) : roundToPrecision p q = 0 := by
  have hq : 0 < q := by omega
  have hdiv : p / q = 0 := Nat.div_eq_of_lt (by omega)
  have hplace : lastPlace p q = 0 := by
    rw [lastPlace, hdiv, Nat.log2_zero]
  have hround : roundHalfEven p (q * 2 ^ 0) ≤ 0 := by
    rw [roundHalfEven_le_iff (grain_pos hq 0)]
    omega
  rw [roundToPrecision_eq, hplace, Nat.le_zero.mp hround, Nat.zero_mul]

theorem decimalUnits_underflow (h : (digits.log2 / 3 + 1 : Nat) + exponent < -400) :
    decimalUnits digits exponent = 0 := by
  have hdigits : digits ≤ 10 ^ (digits.log2 / 3 + 1) :=
    Nat.le_trans (Nat.le_of_lt Nat.lt_log2_self) (two_pow_le_ten_pow (by omega))
  generalize digits.log2 / 3 + 1 = c at h hdigits
  obtain ⟨far, hfar⟩ : ∃ far, (-exponent).toNat = c + exponent.toNat + far :=
    Nat.exists_eq_add_of_le (by omega)
  have hunit : 2 * 2 ^ unitExponent < 10 ^ far := by
    have hlt : unitExponent + 1 < 3 * far := by
      unfold unitExponent
      omega
    generalize unitExponent = u at hlt
    calc 2 * 2 ^ u = 2 ^ (u + 1) := (Nat.pow_succ' ..).symm
      _ < 2 ^ (3 * far) := Nat.pow_lt_pow_right (by decide) hlt
      _ ≤ 10 ^ far := two_pow_le_ten_pow (Nat.le_refl _)
  refine roundToPrecision_eq_zero ?_
  calc 2 * (digits * 10 ^ exponent.toNat * 2 ^ unitExponent)
      ≤ 2 * (10 ^ c * 10 ^ exponent.toNat * 2 ^ unitExponent) :=
        Nat.mul_le_mul_left 2 (Nat.mul_le_mul_right _ (Nat.mul_le_mul_right _ hdigits))
    _ = 10 ^ (c + exponent.toNat) * (2 * 2 ^ unitExponent) := by
        rw [Nat.pow_add, Nat.mul_left_comm]
    _ < 10 ^ (c + exponent.toNat) * 10 ^ far :=
        Nat.mul_lt_mul_of_pos_left hunit (Nat.pow_pos (by decide))
    _ = 10 ^ (-exponent).toNat := by rw [hfar, Nat.pow_add _ _ far]

/-- A decimal number is rounded once, whatever its exponent is. -/
theorem ofDecimal_eq (negative : Bool) (digits : Nat) (exponent : Int) :
    ofDecimal negative digits exponent = ofUnits negative (decimalUnits digits exponent) := by
  unfold ofDecimal
  by_cases hzero : digits = 0
  · have hunits : decimalUnits digits exponent = 0 := by
      refine roundToPrecision_eq_zero ?_
      rw [hzero, Nat.zero_mul, Nat.zero_mul]
      exact Nat.pow_pos (by decide)
    rw [if_pos hzero, hunits, ofUnits_of_lt overflowUnits_pos]
  rw [if_neg hzero]
  dsimp only
  by_cases hlarge : (digits.log2 * 3 / 10 : Nat) + exponent > 400
  · rw [if_pos hlarge, ofUnits_of_le (decimalUnits_overflow hzero hlarge)]
  by_cases hsmall : (digits.log2 / 3 + 1 : Nat) + exponent < -400
  · rw [if_neg hlarge, if_pos hsmall, decimalUnits_underflow hsmall,
      ofUnits_of_lt overflowUnits_pos]
  rw [if_neg hlarge, if_neg hsmall]
  by_cases hnonneg : 0 ≤ exponent
  · have hden : (-exponent).toNat = 0 := by omega
    rw [if_pos hnonneg, decimalUnits, hden, Nat.pow_zero, Nat.pow_eq, Nat.pow_eq]
  · have hnum : exponent.toNat = 0 := by omega
    rw [if_neg hnonneg, decimalUnits, hnum, Nat.pow_zero, Nat.mul_one, Nat.pow_eq, Nat.pow_eq]

theorem ofDecimal_finite_iff (negative : Bool) :
    (∃ x, ofDecimal negative digits exponent = .finite x) ↔
      decimalUnits digits exponent < overflowUnits := by
  rw [ofDecimal_eq]
  constructor
  · rintro ⟨x, h⟩
    by_contra hle
    rw [ofUnits_of_le (Nat.not_lt.mp hle)] at h
    cases h
  · intro hlt
    exact ⟨_, ofUnits_of_lt hlt⟩

/-- The middle between the largest binary64 number and the power of two behind it. -/
def overflowBound : ℚ := 2 ^ overflowExponent - 2 ^ (overflowExponent - 54)

theorem decimalUnits_lt_iff :
    decimalUnits digits exponent < overflowUnits ↔
      digits * (10 : ℚ) ^ exponent < overflowBound := by
  have hpow : (10 : ℚ) ^ exponent = 10 ^ exponent.toNat / 10 ^ (-exponent).toNat := by
    rw [← zpow_natCast, ← zpow_natCast, ← zpow_sub₀ (by norm_num)]
    congr 1
    omega
  have hexp : overflowExponent + unitExponent = overflowExponent - 54 + unitExponent + 53 + 1 := rfl
  have hq : 0 < 10 ^ (-exponent).toNat := Nat.pow_pos (by decide)
  rw [overflowUnits_eq, decimalUnits, hexp, roundToPrecision_lt_iff hq rfl, ← hexp, hpow,
    overflowBound]
  generalize overflowExponent - 54 = k
  generalize overflowExponent = j
  generalize unitExponent = u
  generalize exponent.toNat = up
  generalize (-exponent).toNat = down
  have hunit : (0 : ℚ) < 2 ^ u := by positivity
  have hden : (0 : ℚ) < 10 ^ down := by positivity
  have hsplit : 10 ^ down * 2 ^ (j + u) = 10 ^ down * 2 ^ j * 2 ^ u := by ring
  have hsplit' : digits * 10 ^ up * 2 ^ u + 10 ^ down * 2 ^ (k + u) =
      (digits * 10 ^ up + 10 ^ down * 2 ^ k) * 2 ^ u := by ring
  rw [hsplit, hsplit', Nat.mul_lt_mul_right (Nat.two_pow_pos u), ← mul_div_assoc,
    div_lt_iff₀ hden, sub_mul, lt_sub_iff_add_lt, mul_comm (2 ^ j : ℚ), mul_comm (2 ^ k : ℚ)]
  exact_mod_cast Iff.rfl

end Extended64

namespace Numeral

/-- The number that a numeral writes, its sign left out. -/
def magnitude (n : Numeral) : ℚ :=
  (natOfDigits n.whole + natOfDigits n.fraction / 10 ^ n.fraction.length) * 10 ^ n.exponent

theorem magnitude_eq (n : Numeral) :
    n.magnitude =
      natOfDigits (n.whole ++ n.fraction) * (10 : ℚ) ^ (n.exponent - n.fraction.length) := by
  have hten : (10 : ℚ) ^ n.fraction.length ≠ 0 := by positivity
  rw [magnitude, natOfDigits_append, zpow_sub₀ (by norm_num), zpow_natCast]
  push_cast
  field_simp

/-- The numerals with a finite value are those below the bound. -/
theorem value_finite_iff (n : Numeral) :
    (∃ x, n.value = .finite x) ↔ n.magnitude < Extended64.overflowBound := by
  rw [value, Extended64.ofDecimal_finite_iff, Extended64.decimalUnits_lt_iff, magnitude_eq]

end Numeral

end RequestValidation
