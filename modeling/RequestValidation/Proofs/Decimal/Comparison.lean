import Mathlib
import RequestValidation.Proofs.Decimal.Magnitude
/-!
# Integers compared as binary64 numbers

An integer is compared by the binary64 number nearest to it. Rounding keeps the order, so such a
comparison goes wrong in one way only: two integers that have the same nearest number are blurred,
and count as equal.

Results:
* `roundInt_mono`, `blurs_iff`: rounded integers keep the order, and which of them are equal.
* `roundInt_le_iff`, `roundInt_lt_iff`: integers that are not blurred are compared rightly.
* `Blurs.eq_of_precise`: integers of at most 53 significant bits are not blurred.
* `orderedAs_whole`: a whole number in digits and an integer of 64 bits are ordered as their
  roundings are.
-/
namespace RequestValidation

/-! ## Rounded integers -/

/-- An integer rounded to 53 bits. -/
def roundInt (i : Int) : Int := withSign (i < 0) (roundToPrecision i.natAbs 1)

theorem roundToPrecision_pos {n : Nat} (h : 0 < n) : 0 < roundToPrecision n 1 :=
  two_pow_le_roundToPrecision (k := 0) Nat.one_pos h

theorem roundInt_withSign (negative : Bool) (n : Nat) :
    roundInt (withSign negative n) = withSign negative (roundToPrecision n 1) := by
  rcases Nat.eq_zero_or_pos n with rfl | hpos
  · cases negative <;> rfl
  · cases negative with
    | false => simp [roundInt, withSign]
    | true => simp [roundInt, withSign, hpos]

/-- Rounding keeps the order, and it keeps what is negative apart from what is not. -/
theorem roundInt_mono {i j : Int} (h : i ≤ j) : roundInt i ≤ roundInt j := by
  unfold roundInt withSign
  by_cases hi : i < 0
  · by_cases hj : j < 0
    · have habs : j.natAbs ≤ i.natAbs := by omega
      have hround := roundToPrecision_mono Nat.one_pos habs
      simp [hi, hj, hround]
    · simp [hi, hj]
  · have hj : ¬ j < 0 := by omega
    have habs : i.natAbs ≤ j.natAbs := by omega
    have hround := roundToPrecision_mono Nat.one_pos habs
    simp [hi, hj, hround]

theorem roundInt_neg_iff {i : Int} : roundInt i < 0 ↔ i < 0 := by
  unfold roundInt withSign
  by_cases hi : i < 0
  · have hpos := roundToPrecision_pos (n := i.natAbs) (by omega)
    simp [hi, hpos]
  · simp [hi]

theorem natAbs_roundInt (i : Int) : (roundInt i).natAbs = roundToPrecision i.natAbs 1 := by
  unfold roundInt withSign
  split <;> simp

/-- Whether two integers have the same nearest number of 53 bits. -/
structure Blurs (i j : Int) : Prop where
  sign : i < 0 ↔ j < 0
  nearest : ∃ r, NearestTo i.natAbs r ∧ NearestTo j.natAbs r

theorem blurs_iff {i j : Int} : Blurs i j ↔ roundInt i = roundInt j := by
  constructor
  · rintro ⟨hsign, r, hi, hj⟩
    rw [nearestTo_iff] at hi hj
    simp [roundInt, hi, hj, hsign]
  · intro h
    refine ⟨?_, roundToPrecision i.natAbs 1, nearestTo_roundToPrecision _, ?_⟩
    · rw [← roundInt_neg_iff, h, roundInt_neg_iff]
    · rw [nearestTo_iff, ← natAbs_roundInt, ← natAbs_roundInt, h]

/-- Integers of at most 53 significant bits are not blurred. -/
theorem Blurs.eq_of_precise {i j : Int} (h : Blurs i j) (hi : Precise i.natAbs)
    (hj : Precise j.natAbs) : i = j := by
  obtain ⟨hsign, r, hri, hrj⟩ := h
  rw [nearestTo_iff, roundToPrecision_self hi] at hri
  rw [nearestTo_iff, roundToPrecision_self hj] at hrj
  omega

theorem roundInt_le_iff {i j : Int} : roundInt i ≤ roundInt j ↔ i ≤ j ∨ Blurs i j := by
  rw [blurs_iff]
  have hij := @roundInt_mono i j
  have hji := @roundInt_mono j i
  omega

theorem roundInt_lt_iff {i j : Int} : roundInt i < roundInt j ↔ i < j ∧ ¬ Blurs i j := by
  rw [blurs_iff]
  have hij := @roundInt_mono i j
  have hji := @roundInt_mono j i
  omega

/-! ## Comparison -/

/-- Two binary64 numbers are ordered as two integers are. -/
structure OrderedAs (x y : Extended64) (i j : Int) : Prop where
  le : x.le y = true ↔ i ≤ j
  ge : y.le x = true ↔ j ≤ i
  lt : x.lt y = true ↔ i < j
  gt : y.lt x = true ↔ j < i

open Binary64 (unitExponent)
open Extended64 (overflowExponent)

theorem orderedAs_finite {x y : Binary64} {i j : Int} (hx : x.signedUnits = i * 2 ^ unitExponent)
    (hy : y.signedUnits = j * 2 ^ unitExponent) : OrderedAs (.finite x) (.finite y) i j := by
  have hpos : (0 : Int) < 2 ^ unitExponent := pow_pos (by decide) _
  constructor
  all_goals
    simp only [Extended64.le, Extended64.lt, Binary64.le, Binary64.lt, decide_eq_true_eq, hx, hy,
      mul_le_mul_iff_left₀ hpos, mul_lt_mul_iff_left₀ hpos]

theorem orderedAs_infinite {x : Binary64} {negative : Bool} {i j : Int}
    (h : if negative then j < i else i < j) :
    OrderedAs (.finite x) (.infinite negative) i j := by
  cases negative with
  | false =>
    have hlt : i < j := h
    constructor <;> simp [Extended64.le, Extended64.lt] <;> omega
  | true =>
    have hlt : j < i := h
    constructor <;> simp [Extended64.le, Extended64.lt] <;> omega

/-- The units of a whole number are those of its rounding. -/
theorem units_whole (n : Nat) :
    roundToPrecision (n * Nat.pow 2 unitExponent) 1 =
      roundToPrecision n 1 * Nat.pow 2 unitExponent := by
  rw [Nat.pow_eq, roundToPrecision_scale]

theorem signedUnits_scaled (negative : Bool) (n : Nat) :
    Binary64.signedUnits ⟨negative, n * Nat.pow 2 unitExponent⟩ =
      withSign negative n * 2 ^ unitExponent := by
  rw [Binary64.signedUnits, withSign, Nat.pow_eq]
  generalize unitExponent = k
  split
  · push_cast
    ring
  · push_cast
    ring

theorem signedUnits_ofInt (i : Int) :
    (Binary64.ofInt i).signedUnits = roundInt i * 2 ^ unitExponent := by
  rw [Binary64.ofInt, units_whole, signedUnits_scaled, roundInt]

/-- The value of a whole number in digits. -/
theorem value_whole (negative : Bool) (ds : List Char) :
    Numeral.value ⟨negative, ds, [], 0⟩ =
      .ofUnits negative (roundToPrecision (natOfDigits ds) 1 * Nat.pow 2 unitExponent) := by
  rw [Numeral.value, Extended64.ofDecimal_eq, List.append_nil]
  refine congrArg (Extended64.ofUnits negative) ?_
  have hexponent : (0 : Int) - ([] : List Char).length = 0 := rfl
  rw [Extended64.decimalUnits, hexponent, Int.neg_zero, Int.toNat_zero, Nat.pow_zero, Nat.mul_one,
    roundToPrecision_scale, Nat.pow_eq]

theorem roundInt_fits {l : Int} (h : FitsInt64 l) : (roundInt l).natAbs < 2 ^ overflowExponent := by
  have hle : roundToPrecision l.natAbs 1 ≤ 2 ^ 63 := by
    refine roundToPrecision_le_two_pow Nat.one_pos ?_
    unfold FitsInt64 at h
    omega
  rw [natAbs_roundInt]
  exact Nat.lt_of_le_of_lt hle (Nat.pow_lt_pow_right (by decide) (by decide))

/-- A whole number in digits, of any length, and an integer of 64 bits are ordered as their
roundings are. -/
theorem orderedAs_whole {l : Int} (hl : FitsInt64 l) (negative : Bool) (ds : List Char) :
    OrderedAs (.finite (.ofInt l)) (Numeral.value ⟨negative, ds, [], 0⟩) (roundInt l)
      (roundInt (withSign negative (natOfDigits ds))) := by
  have hfits := roundInt_fits hl
  rw [value_whole, roundInt_withSign]
  generalize roundToPrecision (natOfDigits ds) 1 = units
  by_cases hlt : units * Nat.pow 2 unitExponent < Binary64.overflowUnits
  · rw [Extended64.ofUnits_of_lt hlt]
    refine orderedAs_finite (signedUnits_ofInt l) ?_
    exact signedUnits_scaled negative units
  · rw [Extended64.ofUnits_of_le (Nat.not_lt.mp hlt)]
    have hlarge : 2 ^ overflowExponent ≤ units :=
      Nat.not_lt.mp (mt Extended64.scaled_lt_overflow_iff.mpr hlt)
    refine orderedAs_infinite ?_
    generalize 2 ^ overflowExponent = top at hfits hlarge
    cases negative with
    | false =>
      simp [withSign]
      omega
    | true =>
      simp [withSign]
      omega

end RequestValidation
