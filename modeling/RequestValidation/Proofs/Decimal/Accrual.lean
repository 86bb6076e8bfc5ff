import Mathlib
import RequestValidation.Proofs.Decimal.Magnitude
import RequestValidation.Proofs.Decimal.Reading
/-!
# Accrual of digits

What the reader of integers computes is accrued digit by digit, each product and each sum rounded
to the nearest number of 53 bits. That is the number of the digits as long as nothing is lost on
the way, and no more than a little above it in any case.

Results:
* `accrues_iff`: the rounded steps one by one.
* `Accrues.precise`: what is accrued has at most 53 significant bits.
* `accrues_of_lt`, `accrues_of_precise`: small numbers, and numbers of 53 significant bits in a
  base that is a power of two, are accrued without loss.
* `accumulate_le_growth`, `accumulate_lt_overflow`: how much the digits come to at most.
* `Leading.of_eq_int_iff`, `Leading.of_eq_tooLarge_iff`: what the result is for what is accrued.
-/
namespace RequestValidation.Radix

/-! ## Accrual -/

/-- What digits come to if each product and each sum is rounded to 53 bits. -/
inductive Accrues (base : Nat) : List Nat → Nat → Prop
  | nil : Accrues base [] 0
  | snoc {ds : List Nat} {d total product sum : Nat} (h : Accrues base ds total)
    (hproduct : NearestTo (total * base) product) (hsum : NearestTo (product + d) sum) :
    Accrues base (ds ++ [d]) sum

theorem accrues_iff {base : Nat} {ds : List Nat} {total : Nat} :
    Accrues base ds total ↔ accumulate base ds = total := by
  constructor
  · intro h
    induction h with
    | nil => rfl
    | snoc _ hproduct hsum ih =>
      rw [accumulate_snoc, ih, step, nearestTo_iff.mp hproduct, nearestTo_iff.mp hsum]
  · rintro rfl
    induction ds using List.reverseRecOn with
    | nil => exact .nil
    | append_singleton ds d ih =>
      rw [accumulate_snoc]
      exact .snoc ih (nearestTo_roundToPrecision _) (nearestTo_roundToPrecision _)

theorem Accrues.precise {base : Nat} {ds : List Nat} {total : Nat} (h : Accrues base ds total) :
    Precise total := by
  cases h with
  | nil => exact precise_of_lt (by norm_num)
  | snoc _ _ hsum => exact hsum.precise

theorem ofDigits_reverse_snoc (base : Nat) (ds : List Nat) (d : Nat) :
    Nat.ofDigits base (ds ++ [d]).reverse = Nat.ofDigits base ds.reverse * base + d := by
  rw [List.reverse_append, List.reverse_singleton, List.singleton_append, Nat.ofDigits_cons]
  ring

/-- Small numbers are accrued without any rounding. -/
theorem accrues_of_lt {base : Nat} (hbase : 0 < base) {ds : List Nat}
    (h : Nat.ofDigits base ds.reverse < 2 ^ 53) :
    Accrues base ds (Nat.ofDigits base ds.reverse) := by
  induction ds using List.reverseRecOn with
  | nil => exact .nil
  | append_singleton ds d ih =>
    rw [ofDigits_reverse_snoc] at h ⊢
    have hproduct : Nat.ofDigits base ds.reverse * base < 2 ^ 53 := by omega
    have hfront : Nat.ofDigits base ds.reverse < 2 ^ 53 :=
      Nat.lt_of_le_of_lt (Nat.le_mul_of_pos_right _ hbase) hproduct
    exact .snoc (ih hfront) (nearestTo_of_precise (precise_of_lt hproduct))
      (nearestTo_of_precise (precise_of_lt h))

/-- If the base is a power of two, the digits in front of precise numbers denote precise ones. -/
theorem accrues_of_precise {k : Nat} {ds : List Nat} (hds : ∀ d ∈ ds, d < 2 ^ k)
    (h : Precise (Nat.ofDigits (2 ^ k) ds.reverse)) :
    Accrues (2 ^ k) ds (Nat.ofDigits (2 ^ k) ds.reverse) := by
  induction ds using List.reverseRecOn with
  | nil => exact .nil
  | append_singleton ds d ih =>
    have hd : d < 2 ^ k := hds d (by simp)
    rw [ofDigits_reverse_snoc] at h ⊢
    -- the digits in front denote the quotient by the base
    have hfront : Precise (Nat.ofDigits (2 ^ k) ds.reverse) := by
      have hdiv := h.div_two_pow k
      rwa [Nat.mul_comm, Nat.mul_add_div (Nat.two_pow_pos k), Nat.div_eq_of_lt hd,
        Nat.add_zero] at hdiv
    exact .snoc (ih (fun c hc => hds c (List.mem_append_left _ hc)) hfront)
      (nearestTo_of_precise (hfront.mul_two_pow k)) (nearestTo_of_precise h)

/-! ## Growth -/

open Extended64 (overflowExponent)

/-- Each digit is rounded twice. -/
theorem accumulate_le_growth {base : Nat} {ds : List Nat} (hds : ∀ d ∈ ds, d < base) :
    (accumulate base ds : ℚ) ≤ (base ^ ds.length - 1) * growth ^ (2 * ds.length) := by
  induction ds using List.reverseRecOn with
  | nil => simp [accumulate_nil]
  | append_singleton ds d ih =>
    have hd : ((d + 1 : Nat) : ℚ) ≤ base := by exact_mod_cast hds d (by simp)
    have hfront := ih fun c hc => hds c (List.mem_append_left _ hc)
    have hone := one_le_growth
    have hpow : 1 ≤ growth ^ (2 * ds.length) := one_le_pow₀ hone
    have hproduct := roundToPrecision_le_growth (accumulate base ds * base)
    have hsum := roundToPrecision_le_growth (roundToPrecision (accumulate base ds * base) 1 + d)
    rw [accumulate_snoc, step, List.length_append, List.length_singleton]
    push_cast at hd hproduct hsum ⊢
    generalize (accumulate base ds : ℚ) = total at *
    generalize (roundToPrecision (accumulate base ds * base) 1 : ℚ) = product at *
    have hexponent : growth ^ (2 * (ds.length + 1)) = growth ^ (2 * ds.length) * growth ^ 2 := by
      ring
    generalize growth ^ (2 * ds.length) = grown at *
    -- the last digit grows once, and is charged as much as those in front of it
    have hdigit : (base - 1 : ℚ) ≤ (base - 1) * (grown * growth) := by
      refine le_mul_of_one_le_right ?_ (one_le_mul_of_one_le_of_one_le hpow hone)
      have hnonneg : (0 : ℚ) ≤ d := Nat.cast_nonneg d
      linarith
    have hstep : product + d ≤ (base ^ (ds.length + 1) - 1) * grown * growth := by
      calc product + d
          ≤ (base ^ ds.length - 1) * grown * base * growth + (base - 1) * (grown * growth) := by
            have hmul : total * base * growth ≤
                (base ^ ds.length - 1) * grown * base * growth := by gcongr
            linarith
        _ = (base ^ (ds.length + 1) - 1) * grown * growth := by ring
    calc _ ≤ (product + d) * growth := hsum
      _ ≤ (base ^ (ds.length + 1) - 1) * grown * growth * growth :=
        mul_le_mul_of_nonneg_right hstep (by linarith)
      _ = (base ^ (ds.length + 1) - 1) * growth ^ (2 * (ds.length + 1)) := by
        rw [hexponent]
        ring

theorem growth_pow_le : growth ^ 616 ≤ 9 / 8 := by
  have hsmall : growth ^ 8 ≤ 1001 / 1000 := by norm_num [growth]
  have hnonneg : 0 ≤ growth ^ 8 := by
    have hone := one_le_growth
    positivity
  calc growth ^ 616 = (growth ^ 8) ^ 77 := by rw [← pow_mul]
    _ ≤ (1001 / 1000) ^ 77 := pow_le_pow_left₀ hnonneg hsmall 77
    _ ≤ 9 / 8 := by norm_num

/-- So many decimal digits never come to too much. -/
def safeLength : Nat := 308

theorem accumulate_lt_overflow {ds : List Nat} (hds : ∀ d ∈ ds, d < 10)
    (hlen : ds.length ≤ safeLength) :
    accumulate 10 ds < 2 ^ overflowExponent := by
  have hten : (10 : ℚ) ^ ds.length ≤ 10 ^ safeLength := pow_le_pow_right₀ (by norm_num) hlen
  have hgrowth : growth ^ (2 * ds.length) ≤ 9 / 8 :=
    (pow_le_pow_right₀ one_le_growth (Nat.mul_le_mul_left 2 hlen)).trans growth_pow_le
  have hnat : 10 ^ safeLength * 9 < 8 * 2 ^ overflowExponent := by decide +kernel
  have htop : (10 : ℚ) ^ safeLength * 9 < 8 * 2 ^ overflowExponent := by exact_mod_cast hnat
  have hlt : (accumulate 10 ds : ℚ) < 2 ^ overflowExponent := by
    calc (accumulate 10 ds : ℚ)
        ≤ (10 ^ ds.length - 1) * growth ^ (2 * ds.length) := by
          exact_mod_cast accumulate_le_growth hds
      _ ≤ 10 ^ safeLength * (9 / 8) := by
          refine mul_le_mul (by linarith) hgrowth ?_ (by positivity)
          exact pow_nonneg (zero_le_one.trans one_le_growth) _
      _ < 2 ^ overflowExponent := by linarith
  exact_mod_cast hlt

/-! ## Results -/

theorem maxInt_eq : maxInt = 2 ^ 63 - 1 := rfl

theorem Leading.of_eq_int_iff {negative : Bool} {total : Nat} {i : Int} :
    Leading.of negative total = .int i ↔
      total ≤ 2 ^ 63 ∧ i = if negative then -(total : Int) else min (total : Int) maxInt := by
  unfold Leading.of
  rw [Nat.pow_eq]
  by_cases hsmall : total ≤ 2 ^ 63
  · rw [if_pos hsmall, and_iff_right hsmall, Leading.int.injEq, eq_comm]
  · rw [if_neg hsmall, iff_false_right fun h => hsmall h.1]
    split <;> simp

/-- What is too large for binary64 is no number at all. -/
theorem Leading.of_eq_tooLarge_iff {negative : Bool} {total : Nat} :
    Leading.of negative total = .tooLarge ↔ 2 ^ overflowExponent ≤ total := by
  have hunits := @Extended64.scaled_lt_overflow_iff total
  have hint : (2 : Nat) ^ 63 < 2 ^ overflowExponent :=
    Nat.pow_lt_pow_right (by decide) (by decide)
  unfold Leading.of
  rw [Nat.pow_eq]
  generalize total * Nat.pow 2 Binary64.unitExponent = units at hunits
  generalize 2 ^ overflowExponent = top at hunits hint
  by_cases hsmall : total ≤ 2 ^ 63
  · rw [if_pos hsmall]
    exact iff_of_false nofun (Nat.not_le.mpr (Nat.lt_of_le_of_lt hsmall hint))
  rw [if_neg hsmall]
  by_cases hlt : total < top
  · rw [Extended64.ofUnits_of_lt (hunits.mpr hlt)]
    exact iff_of_false nofun (Nat.not_le.mpr hlt)
  · rw [Extended64.ofUnits_of_le (Nat.not_lt.mp (mt hunits.mp hlt))]
    exact iff_of_true rfl (Nat.not_lt.mp hlt)

end RequestValidation.Radix
