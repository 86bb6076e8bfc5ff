import Mathlib
import RequestValidation.Decimal.Binary64
/-!
# Rounding to 53 bits

A whole number is precise if it has at most 53 significant bits. `roundToPrecision p q` is the
precise number nearest to `p / q`, and of two equally near ones the one with an even significand:
it is precise, it keeps precise numbers and the order, and for whole numbers it is the only number
that is nearest in this sense.

Results:
* `roundHalfEven_le_iff`: where a quotient is rounded to at most a given number.
* `precise_roundToPrecision`, `roundToPrecision_of_precise`, `roundToPrecision_mono`.
* `roundToPrecision_self`: a precise number is its own rounding.
* `roundToPrecision_scale`: a power of two does not change how a whole number is rounded.
* `roundToPrecision_lt_iff`: what is rounded below a power of two.
* `roundToPrecision_le_growth`: how much a whole number grows at most.
* `nearestTo_iff`: a whole number is rounded to the one nearest number.
-/
namespace RequestValidation

/-! ## Quotients -/

theorem roundHalfEven_le_iff {d : Nat} (hd : 0 < d) {n m : Nat} :
    roundHalfEven n d ≤ m ↔
      2 * n < d * (2 * m + 1) ∨ 2 * n = d * (2 * m + 1) ∧ m % 2 = 0 := by
  have hdiv := Nat.div_add_mod n d
  have hmod := Nat.mod_lt n hd
  have hround : d * (2 * m + 1) = 2 * (d * m) + d := by ring
  simp only [roundHalfEven]
  rw [hround]
  rcases Nat.lt_trichotomy (n / d) m with hlt | heq | hgt
  · have hmul : d * (n / d + 1) ≤ d * m := Nat.mul_le_mul_left d hlt
    rw [Nat.mul_add, Nat.mul_one] at hmul
    constructor
    · intro _
      omega
    · intro _
      split_ifs <;> omega
  · rw [heq] at hdiv ⊢
    split_ifs <;> omega
  · have hmul : d * (m + 1) ≤ d * (n / d) := Nat.mul_le_mul_left d hgt
    rw [Nat.mul_add, Nat.mul_one] at hmul
    constructor
    · split_ifs <;> omega
    · omega

theorem lt_roundHalfEven_iff {d : Nat} (hd : 0 < d) {n m : Nat} :
    m < roundHalfEven n d ↔
      d * (2 * m + 1) < 2 * n ∨ 2 * n = d * (2 * m + 1) ∧ m % 2 = 1 := by
  rw [← Nat.not_le, roundHalfEven_le_iff hd]
  omega

/-- What lies half way to an even number is rounded to it. -/
theorem roundHalfEven_lt_even {d : Nat} (hd : 0 < d) {n m : Nat} (hm : 0 < m) :
    roundHalfEven n d < 2 * m ↔ 2 * n + d < 2 * (d * (2 * m)) := by
  obtain ⟨j, rfl⟩ := Nat.exists_eq_succ_of_ne_zero (Nat.ne_of_gt hm)
  have hprod : d * (2 * (2 * j + 1) + 1) = 4 * (d * j) + 3 * d := by ring
  have hprod' : d * (2 * (j + 1)) = 2 * (d * j) + 2 * d := by ring
  rw [Nat.succ_eq_add_one, Nat.mul_add, Nat.lt_succ_iff, roundHalfEven_le_iff hd, hprod,
    ← Nat.mul_add, hprod']
  omega

theorem roundHalfEven_mono {d : Nat} (hd : 0 < d) {n n' : Nat} (h : n ≤ n') :
    roundHalfEven n d ≤ roundHalfEven n' d := by
  have hself := (roundHalfEven_le_iff hd).mp (Nat.le_refl (roundHalfEven n' d))
  rw [roundHalfEven_le_iff hd]
  omega

theorem roundHalfEven_scale {d k : Nat} (hd : 0 < d) (hk : 0 < k) (n : Nat) :
    roundHalfEven (n * k) (d * k) = roundHalfEven n d := by
  refine eq_of_forall_ge_iff fun m => ?_
  have hleft : 2 * (n * k) = 2 * n * k := (Nat.mul_assoc ..).symm
  have hright : d * k * (2 * m + 1) = d * (2 * m + 1) * k := by ring
  rw [roundHalfEven_le_iff (Nat.mul_pos hd hk), roundHalfEven_le_iff hd, hleft, hright,
    Nat.mul_lt_mul_right hk, Nat.mul_right_cancel_iff hk]

/-- A quotient is rounded by at most a half, and by a half only to an even number. -/
theorem roundHalfEven_near {d : Nat} (hd : 0 < d) (n : Nat) :
    2 * n ≤ 2 * (d * roundHalfEven n d) + d ∧ 2 * (d * roundHalfEven n d) ≤ 2 * n + d ∧
      (2 * n = 2 * (d * roundHalfEven n d) + d ∨ 2 * (d * roundHalfEven n d) = 2 * n + d →
        roundHalfEven n d % 2 = 0) := by
  have hle := (roundHalfEven_le_iff hd).mp (Nat.le_refl (roundHalfEven n d))
  have hup : d * (2 * roundHalfEven n d + 1) = 2 * (d * roundHalfEven n d) + d := by ring
  rw [hup] at hle
  cases hr : roundHalfEven n d with
  | zero =>
    rw [hr] at hle
    omega
  | succ r =>
    rw [hr] at hle
    have hlt : r < roundHalfEven n d := hr.symm ▸ Nat.lt_succ_self r
    have hdown : d * (2 * r + 1) = 2 * (d * r) + d := by ring
    have hnext : d * (r + 1) = d * r + d := by ring
    rw [lt_roundHalfEven_iff hd, hdown] at hlt
    rw [hnext] at hle ⊢
    omega

/-! ## Precise numbers -/

/-- Whether a whole number has at most 53 significant bits. -/
def Precise (n : Nat) : Prop := ∃ m k, m < 2 ^ 53 ∧ n = m * 2 ^ k

theorem precise_two_pow (k : Nat) : Precise (2 ^ k) := ⟨1, k, by norm_num, (Nat.one_mul _).symm⟩

theorem precise_of_lt {n : Nat} (h : n < 2 ^ 53) : Precise n := ⟨n, 0, h, by simp⟩

theorem Precise.mul_two_pow {n : Nat} (h : Precise n) (k : Nat) : Precise (n * 2 ^ k) := by
  obtain ⟨m, e, hm, rfl⟩ := h
  exact ⟨m, e + k, hm, by ring⟩

theorem Precise.div_two_pow {n : Nat} (h : Precise n) (k : Nat) : Precise (n / 2 ^ k) := by
  obtain ⟨m, e, hm, rfl⟩ := h
  rcases Nat.le_total k e with hle | hle
  · obtain ⟨j, rfl⟩ := Nat.exists_eq_add_of_le hle
    have hdiv : m * 2 ^ (k + j) = m * 2 ^ j * 2 ^ k := by ring
    rw [hdiv, Nat.mul_div_cancel _ (Nat.two_pow_pos k)]
    exact ⟨m, j, hm, rfl⟩
  · obtain ⟨j, rfl⟩ := Nat.exists_eq_add_of_le hle
    rw [Nat.pow_add, Nat.mul_comm m, Nat.mul_div_mul_left _ _ (Nat.two_pow_pos e)]
    exact precise_of_lt (Nat.lt_of_le_of_lt (Nat.div_le_self _ _) hm)

/-- The exponent of the last bit that is kept of a quotient. -/
def lastPlace (p q : Nat) : Nat := (p / q).log2 + 1 - 53

theorem roundToPrecision_eq (p q : Nat) :
    roundToPrecision p q = roundHalfEven p (q * 2 ^ lastPlace p q) * 2 ^ lastPlace p q := rfl

variable {p p' q k n : Nat}

theorem grain_pos (hq : 0 < q) (e : Nat) : 0 < q * 2 ^ e := Nat.mul_pos hq (Nat.two_pow_pos e)

/-- A quotient is below the power of two behind its leading bit. -/
theorem lt_two_pow_log2 (hq : 0 < q) (p : Nat) : p < q * 2 ^ ((p / q).log2 + 1) := by
  have hlt := (Nat.div_lt_iff_lt_mul hq).mp (Nat.lt_log2_self (n := p / q))
  rwa [Nat.mul_comm] at hlt

theorem log2_le_of_le (hq : 0 < q) (h : p ≤ q * 2 ^ k) : (p / q).log2 ≤ k := by
  by_cases hzero : p / q = 0
  · rw [hzero]
    exact Nat.zero_le k
  · have hpow : q * 2 ^ (k + 1) = 2 * (q * 2 ^ k) := by ring
    have hpos := grain_pos hq k
    have hlt : p / q < 2 ^ (k + 1) := by
      rw [Nat.div_lt_iff_lt_mul hq, Nat.mul_comm]
      omega
    exact Nat.le_of_lt_succ ((Nat.log2_lt hzero).mpr hlt)

theorem le_log2_of_le (hq : 0 < q) (h : q * 2 ^ k ≤ p) :
    k ≤ (p / q).log2 ∧ q * 2 ^ (p / q).log2 ≤ p := by
  have hle : 2 ^ k ≤ p / q := (Nat.le_div_iff_mul_le hq).mpr (by rwa [Nat.mul_comm])
  have hne : p / q ≠ 0 := Nat.ne_of_gt (Nat.lt_of_lt_of_le (Nat.two_pow_pos k) hle)
  have hself := (Nat.le_div_iff_mul_le hq).mp (Nat.log2_self_le hne)
  rw [Nat.mul_comm] at hself
  exact ⟨(Nat.le_log2 hne).mpr hle, hself⟩

theorem log2_div_mono (h : p ≤ p') (q : Nat) : (p / q).log2 ≤ (p' / q).log2 := by
  rw [Nat.log2_eq_log_two, Nat.log2_eq_log_two]
  exact Nat.log_mono_right (Nat.div_le_div_right h)

/-- Whole multiples of the last place are not rounded. -/
theorem roundHalfEven_grain (hq : 0 < q) (m e : Nat) :
    roundHalfEven (q * (m * 2 ^ e)) (q * 2 ^ e) = m := by
  have hmul : q * (m * 2 ^ e) = m * (q * 2 ^ e) := by ring
  rw [hmul, roundHalfEven_mul m _ (grain_pos hq e)]

theorem roundToPrecision_le_two_pow (hq : 0 < q) (h : p ≤ q * 2 ^ k) :
    roundToPrecision p q ≤ 2 ^ k := by
  have hlog := log2_le_of_le hq h
  have hplace : lastPlace p q ≤ k := by unfold lastPlace; omega
  rw [roundToPrecision_eq]
  generalize lastPlace p q = e at hplace
  obtain ⟨j, rfl⟩ := Nat.exists_eq_add_of_le hplace
  have hpow : (2 : Nat) ^ (e + j) = 2 ^ j * 2 ^ e := by ring
  rw [hpow] at h ⊢
  refine Nat.mul_le_mul_right _ ?_
  calc roundHalfEven p (q * 2 ^ e)
      ≤ roundHalfEven (q * (2 ^ j * 2 ^ e)) (q * 2 ^ e) := roundHalfEven_mono (grain_pos hq e) h
    _ = 2 ^ j := roundHalfEven_grain hq _ _

theorem two_pow_le_roundToPrecision (hq : 0 < q) (h : q * 2 ^ k ≤ p) :
    2 ^ k ≤ roundToPrecision p q := by
  obtain ⟨hk, hself⟩ := le_log2_of_le hq h
  refine Nat.le_trans (Nat.pow_le_pow_right (by decide) hk) ?_
  have hplace : lastPlace p q ≤ (p / q).log2 := by unfold lastPlace; omega
  rw [roundToPrecision_eq]
  generalize lastPlace p q = e at hplace
  obtain ⟨j, hj⟩ := Nat.exists_eq_add_of_le hplace
  have hpow : (2 : Nat) ^ (e + j) = 2 ^ j * 2 ^ e := by ring
  rw [hj, hpow] at hself ⊢
  refine Nat.mul_le_mul_right _ ?_
  calc 2 ^ j = roundHalfEven (q * (2 ^ j * 2 ^ e)) (q * 2 ^ e) := (roundHalfEven_grain hq _ _).symm
    _ ≤ roundHalfEven p (q * 2 ^ e) := roundHalfEven_mono (grain_pos hq e) hself

/-- Rounding keeps the order. -/
theorem roundToPrecision_mono (hq : 0 < q) (h : p ≤ p') :
    roundToPrecision p q ≤ roundToPrecision p' q := by
  have hlog := log2_div_mono h q
  by_cases hplace : lastPlace p q = lastPlace p' q
  · rw [roundToPrecision_eq, roundToPrecision_eq, hplace]
    exact Nat.mul_le_mul_right _ (roundHalfEven_mono (grain_pos hq _) h)
  · -- a power of two lies between the two quotients
    have hlt : (p / q).log2 + 1 ≤ (p' / q).log2 := by
      unfold lastPlace at hplace
      omega
    have hzero : p' / q ≠ 0 := by
      intro hzero
      rw [hzero, Nat.log2_zero] at hlt
      omega
    have hself := (Nat.le_div_iff_mul_le hq).mp (Nat.log2_self_le hzero)
    rw [Nat.mul_comm] at hself
    calc roundToPrecision p q
        ≤ 2 ^ ((p / q).log2 + 1) :=
          roundToPrecision_le_two_pow hq (Nat.le_of_lt (lt_two_pow_log2 hq p))
      _ ≤ 2 ^ (p' / q).log2 := Nat.pow_le_pow_right (by decide) hlt
      _ ≤ roundToPrecision p' q := two_pow_le_roundToPrecision hq hself

/-- At most 53 bits are kept. -/
theorem roundHalfEven_le_two_pow (hq : 0 < q) (p : Nat) :
    roundHalfEven p (q * 2 ^ lastPlace p q) ≤ 2 ^ 53 := by
  have hplace : (p / q).log2 + 1 ≤ 53 + lastPlace p q := by unfold lastPlace; omega
  have hlt : p ≤ q * (2 ^ 53 * 2 ^ lastPlace p q) := by
    rw [← Nat.pow_add]
    exact Nat.le_trans (Nat.le_of_lt (lt_two_pow_log2 hq p))
      (Nat.mul_le_mul_left q (Nat.pow_le_pow_right (by decide) hplace))
  calc roundHalfEven p (q * 2 ^ lastPlace p q)
      ≤ roundHalfEven (q * (2 ^ 53 * 2 ^ lastPlace p q)) (q * 2 ^ lastPlace p q) :=
        roundHalfEven_mono (grain_pos hq _) hlt
    _ = 2 ^ 53 := roundHalfEven_grain hq _ _

theorem precise_roundToPrecision (hq : 0 < q) (p : Nat) : Precise (roundToPrecision p q) := by
  rw [roundToPrecision_eq]
  rcases Nat.lt_or_eq_of_le (roundHalfEven_le_two_pow hq p) with hlt | heq
  · exact ⟨_, _, hlt, rfl⟩
  · rw [heq, ← Nat.pow_add]
    exact precise_two_pow _

/-- A quotient that is precise is its own rounding. -/
theorem roundToPrecision_of_precise (hq : 0 < q) (h : Precise n) :
    roundToPrecision (q * n) q = n := by
  obtain ⟨m, k, hm, rfl⟩ := h
  have hle : q * (m * 2 ^ k) ≤ q * 2 ^ (52 + k + 1) := by
    have hpow : (2 : Nat) ^ (52 + k + 1) = 2 ^ 53 * 2 ^ k := by ring
    rw [hpow]
    exact Nat.mul_le_mul_left q (Nat.mul_le_mul_right _ (Nat.le_of_lt hm))
  have hplace : lastPlace (q * (m * 2 ^ k)) q ≤ k := by
    unfold lastPlace
    rw [Nat.mul_div_cancel_left _ hq]
    by_cases hzero : m * 2 ^ k = 0
    · rw [hzero, Nat.log2_zero]
      omega
    · have hpow : (2 : Nat) ^ (53 + k) = 2 ^ 53 * 2 ^ k := by ring
      have hlog : (m * 2 ^ k).log2 < 53 + k := by
        rw [Nat.log2_lt hzero, hpow]
        exact Nat.mul_lt_mul_of_pos_right hm (Nat.two_pow_pos k)
      omega
  rw [roundToPrecision_eq]
  generalize lastPlace (q * (m * 2 ^ k)) q = e at hplace
  obtain ⟨j, rfl⟩ := Nat.exists_eq_add_of_le hplace
  have hpow : m * 2 ^ (e + j) = m * 2 ^ j * 2 ^ e := by ring
  rw [hpow, roundHalfEven_grain hq]

/-- What is rounded below a power of two is nearer to the precise number before it. -/
theorem roundToPrecision_lt_iff (hq : 0 < q) {j : Nat} (hj : j = k + 53) :
    roundToPrecision p q < 2 ^ (j + 1) ↔ p + q * 2 ^ k < q * 2 ^ (j + 1) := by
  have hpos := grain_pos hq k
  have hunit : q * 2 ^ j = 2 ^ 53 * (q * 2 ^ k) := by rw [hj]; ring
  have hdouble : q * 2 ^ (j + 1) = 2 * (q * 2 ^ j) := by ring
  rcases Nat.lt_or_ge p (q * 2 ^ j) with hsmall | hlarge
  · have hround := roundToPrecision_le_two_pow hq (Nat.le_of_lt hsmall)
    have hlt : (2 : Nat) ^ j < 2 ^ (j + 1) := Nat.pow_lt_pow_right (by decide) (Nat.lt_succ_self _)
    rw [iff_true_left (Nat.lt_of_le_of_lt hround hlt)]
    omega
  rcases Nat.lt_or_ge p (q * 2 ^ (j + 1)) with hlt | hge
  · -- the last place is known here, and so is the half way point
    have hlog : (p / q).log2 = j := by
      have hup := log2_le_of_le hq (Nat.le_of_lt hlt)
      have hdown := (le_log2_of_le hq hlarge).1
      have hself := (le_log2_of_le hq hlarge).2
      by_contra hne
      have htop : (p / q).log2 = j + 1 := by omega
      rw [htop] at hself
      omega
    have hplace : lastPlace p q = k + 1 := by
      unfold lastPlace
      omega
    have hpow : (2 : Nat) ^ (j + 1) = 2 * 2 ^ 52 * 2 ^ (k + 1) := by rw [hj]; ring
    have hgrain : q * 2 ^ (k + 1) = 2 * (q * 2 ^ k) := by ring
    rw [roundToPrecision_eq, hplace, hpow, Nat.mul_lt_mul_right (Nat.two_pow_pos _),
      roundHalfEven_lt_even (grain_pos hq _) (Nat.two_pow_pos 52), ← hpow, hgrain]
    omega
  · have hround := two_pow_le_roundToPrecision hq hge
    rw [iff_false_left (Nat.not_lt.mpr hround)]
    omega

/-! ## Whole numbers -/

/-- Whether an integer is one of 64 bits with a sign. -/
def FitsInt64 (i : Int) : Prop := -(2 ^ 63) ≤ i ∧ i < 2 ^ 63

theorem lastPlace_one (n : Nat) : lastPlace n 1 = n.log2 + 1 - 53 := by
  rw [lastPlace, Nat.div_one]

/-- A precise number is its own rounding. -/
theorem roundToPrecision_self (h : Precise n) : roundToPrecision n 1 = n := by
  have hround := roundToPrecision_of_precise Nat.one_pos h
  rwa [Nat.one_mul] at hround

/-- A power of two does not change how a whole number is rounded. -/
theorem roundToPrecision_scale (n k : Nat) :
    roundToPrecision (n * 2 ^ k) 1 = roundToPrecision n 1 * 2 ^ k := by
  rcases Nat.lt_or_ge n (2 ^ 53) with hsmall | hlarge
  · have hprecise : Precise (n * 2 ^ k) := ⟨n, k, hsmall, rfl⟩
    rw [roundToPrecision_self hprecise, roundToPrecision_self (precise_of_lt hsmall)]
  · have hzero : n ≠ 0 := Nat.ne_of_gt (Nat.lt_of_lt_of_le (Nat.two_pow_pos 53) hlarge)
    have hbits : 53 ≤ n.log2 := (Nat.le_log2 hzero).mpr hlarge
    have hscaled : n * 2 ^ k ≠ 0 := Nat.mul_ne_zero hzero (Nat.ne_of_gt (Nat.two_pow_pos k))
    have hlog : (n * 2 ^ k).log2 = n.log2 + k := by
      refine (Nat.log2_eq_iff hscaled).mpr ⟨?_, ?_⟩
      · rw [Nat.pow_add]
        exact Nat.mul_le_mul_right _ (Nat.log2_self_le hzero)
      · rw [Nat.add_right_comm, Nat.pow_add]
        exact Nat.mul_lt_mul_of_pos_right Nat.lt_log2_self (Nat.two_pow_pos k)
    have hplace : lastPlace (n * 2 ^ k) 1 = lastPlace n 1 + k := by
      rw [lastPlace_one, lastPlace_one, hlog]
      omega
    have hround := roundHalfEven_scale (grain_pos Nat.one_pos (lastPlace n 1)) (Nat.two_pow_pos k) n
    rw [Nat.mul_assoc] at hround
    rw [roundToPrecision_eq, roundToPrecision_eq, hplace, Nat.pow_add, hround, Nat.mul_assoc]

/-- The most that a rounding multiplies a number by. -/
def growth : ℚ := 1 + 1 / 2 ^ 53

theorem one_le_growth : 1 ≤ growth := by norm_num [growth]

theorem roundToPrecision_le_growth (n : Nat) : (roundToPrecision n 1 : ℚ) ≤ n * growth := by
  have hnat : roundToPrecision n 1 * 2 ^ 53 ≤ n * (2 ^ 53 + 1) := by
    rcases Nat.lt_or_ge n (2 ^ 53) with hsmall | hlarge
    · have hself := roundToPrecision_self (precise_of_lt hsmall)
      omega
    · have hzero : n ≠ 0 := Nat.ne_of_gt (Nat.lt_of_lt_of_le (Nat.two_pow_pos 53) hlarge)
      have hbits : 53 ≤ n.log2 := (Nat.le_log2 hzero).mpr hlarge
      have hplace := lastPlace_one n
      have hlog : n.log2 = lastPlace n 1 + 52 := by omega
      have hself := Nat.log2_self_le hzero
      rw [hlog, Nat.pow_add] at hself
      have hround := roundToPrecision_eq n 1
      obtain ⟨-, hnear, -⟩ := roundHalfEven_near (grain_pos Nat.one_pos (lastPlace n 1)) n
      rw [Nat.one_mul] at hround hnear
      rw [Nat.mul_comm (2 ^ lastPlace n 1), ← hround] at hnear
      linarith
  have hcast : (roundToPrecision n 1 : ℚ) * 2 ^ 53 ≤ n * (2 ^ 53 + 1) := by exact_mod_cast hnat
  have hmul : (n : ℚ) * growth * 2 ^ 53 = n * (2 ^ 53 + 1) := by
    rw [growth]
    ring
  have hpos : (0 : ℚ) < 2 ^ 53 := by positivity
  rw [← hmul] at hcast
  exact le_of_mul_le_mul_right hcast hpos

/-- Whether a precise number is nearest to a whole number, of two nearest ones the one with an even
significand, which has no need of the last bit. -/
structure NearestTo (n r : Nat) : Prop where
  precise : Precise r
  nearest : ∀ m, Precise m → r.dist n ≤ m.dist n
  even : ∀ m, Precise m → m.dist n = r.dist n → m ≠ r → ∃ c k, c < 2 ^ 52 ∧ r = c * 2 ^ k

/-- A precise number that is no multiple of the last place is farther than one that is. -/
theorem multiple_or_farther {m : Nat} (hm : Precise m) (n : Nat) :
    (∃ c, m = 2 ^ lastPlace n 1 * c) ∨
      ∃ c, (2 ^ lastPlace n 1 * c).dist n < m.dist n := by
  obtain ⟨c, j, hc, rfl⟩ := hm
  rcases Nat.le_total (lastPlace n 1) j with hle | hle
  · obtain ⟨i, rfl⟩ := Nat.exists_eq_add_of_le hle
    exact .inl ⟨c * 2 ^ i, by ring⟩
  rcases Nat.eq_or_lt_of_le hle with heq | hlt
  · exact .inl ⟨c, by rw [heq, Nat.mul_comm]⟩
  · -- the leading bit of the number is behind those of the multiple
    refine .inr ⟨2 ^ 52, ?_⟩
    have hplace := lastPlace_one n
    have hzero : n ≠ 0 := by
      rintro rfl
      rw [Nat.log2_zero] at hplace
      omega
    have hself := Nat.log2_self_le hzero
    have hbits : n.log2 = lastPlace n 1 + 52 := by omega
    rw [hbits, Nat.pow_add] at hself
    obtain ⟨i, hi⟩ := Nat.exists_eq_add_of_lt hlt
    have hlow : c * 2 ^ j < 2 ^ 53 * 2 ^ j := Nat.mul_lt_mul_of_pos_right hc (Nat.two_pow_pos j)
    have hpow : (2 : Nat) ^ lastPlace n 1 * 2 ^ 52 = 2 ^ 53 * 2 ^ j * 2 ^ i := by rw [hi]; ring
    have hle := Nat.le_mul_of_pos_right (2 ^ 53 * 2 ^ j) (Nat.two_pow_pos i)
    unfold Nat.dist
    omega

theorem nearestTo_roundToPrecision (n : Nat) : NearestTo n (roundToPrecision n 1) := by
  have hprecise := precise_roundToPrecision Nat.one_pos n
  have hround := roundToPrecision_eq n 1
  obtain ⟨hup, hdown, htie⟩ := roundHalfEven_near (grain_pos Nat.one_pos (lastPlace n 1)) n
  have hfew := roundHalfEven_le_two_pow Nat.one_pos n
  have hfar := fun m (hm : Precise m) => multiple_or_farther hm n
  have hpos := Nat.two_pow_pos (lastPlace n 1)
  rw [Nat.one_mul] at hround hup hdown htie hfew
  generalize lastPlace n 1 = e at hround hup hdown htie hfew hfar hpos
  generalize roundHalfEven n (2 ^ e) = c at hround hup hdown htie hfew
  rw [Nat.mul_comm] at hround
  rw [hround] at hprecise ⊢
  -- among the multiples of the last place
  have hapart (c' : Nat) (hne : c' ≠ c) :
      2 ^ e * c' + 2 ^ e ≤ 2 ^ e * c ∨ 2 ^ e * c + 2 ^ e ≤ 2 ^ e * c' := by
    rcases Nat.lt_or_gt_of_ne hne with hlt | hgt
    · exact .inl (Nat.mul_le_mul_left (2 ^ e) hlt)
    · exact .inr (Nat.mul_le_mul_left (2 ^ e) hgt)
  have hmultiple (c' : Nat) : (2 ^ e * c).dist n ≤ (2 ^ e * c').dist n := by
    by_cases hne : c' = c
    · rw [hne]
    · have hsteps := hapart c' hne
      unfold Nat.dist
      omega
  refine ⟨hprecise, ?_, ?_⟩
  · intro m hm
    rcases hfar m hm with ⟨c', rfl⟩ | ⟨c', hlt⟩
    · exact hmultiple c'
    · exact Nat.le_trans (hmultiple c') (Nat.le_of_lt hlt)
  · intro m hm hdist hne
    obtain ⟨c', rfl⟩ : ∃ c', m = 2 ^ e * c' := by
      rcases hfar m hm with hsome | ⟨c', hlt⟩
      · exact hsome
      · have hle := hmultiple c'
        omega
    have hsteps := hapart c' fun h => hne (by rw [h])
    have heven : c % 2 = 0 := by
      unfold Nat.dist at hdist
      exact htie (by omega)
    obtain ⟨h, rfl⟩ := Nat.dvd_of_mod_eq_zero heven
    rcases Nat.lt_or_ge h (2 ^ 52) with hlt | hge
    · exact ⟨h, e + 1, hlt, by ring⟩
    · obtain rfl : h = 2 ^ 52 := by omega
      exact ⟨1, e + 53, by norm_num, by ring⟩

/-- Above a number with an even significand, another stands half a step away. -/
theorem precise_above {c : Nat} (hc : c < 2 ^ 52) (k : Nat) :
    ∃ half, 2 ^ k ≤ 2 * half ∧ 2 * half ≤ 2 ^ k + 1 ∧ Precise (c * 2 ^ k + half) := by
  cases k with
  | zero => exact ⟨1, by simp, by simp, precise_of_lt (by omega)⟩
  | succ k => exact ⟨2 ^ k, by omega, by omega, 2 * c + 1, k, by omega, by ring⟩

/-- Below it, too. -/
theorem precise_below {c : Nat} (hc : c + 1 < 2 ^ 52) (k : Nat) :
    ∃ half, 2 ^ k ≤ 2 * half ∧ 2 * half ≤ 2 ^ k + 1 ∧
      ∃ m, Precise m ∧ m + half = (c + 1) * 2 ^ k := by
  cases k with
  | zero => exact ⟨1, by simp, by simp, c, precise_of_lt (by omega), by simp⟩
  | succ k => exact ⟨2 ^ k, by omega, by omega, _, ⟨2 * c + 1, k, by omega, rfl⟩, by ring⟩

/-- Two numbers that are equally near cannot both do without the last bit. -/
theorem NearestTo.not_lt {n r r' : Nat} (h : NearestTo n r) (h' : NearestTo n r') : ¬ r < r' := by
  intro hlt
  have hdist := Nat.le_antisymm (h.nearest r' h'.precise) (h'.nearest r h.precise)
  obtain ⟨c, k, hc, hr⟩ := h.even r' h'.precise hdist.symm (Nat.ne_of_gt hlt)
  obtain ⟨c', k', hc', hr'⟩ := h'.even r h.precise hdist (Nat.ne_of_lt hlt)
  have hmiddle : r' + r = 2 * n := by
    unfold Nat.dist at hdist
    omega
  rcases Nat.le_total k k' with hle | hle
  · obtain ⟨i, rfl⟩ := Nat.exists_eq_add_of_le hle
    obtain ⟨half, hhalf, hhalf', hm⟩ := precise_above hc k
    have hmul : c' * 2 ^ (k + i) = c' * 2 ^ i * 2 ^ k := by ring
    have hcoeff : c < c' * 2 ^ i := by
      rw [hr, hr', hmul] at hlt
      exact Nat.lt_of_mul_lt_mul_right hlt
    have hstep := Nat.mul_le_mul_right (2 ^ k) hcoeff
    rw [Nat.succ_mul, ← hmul, ← hr, ← hr'] at hstep
    have hpos := Nat.two_pow_pos k
    have hnear := h.nearest _ hm
    rw [← hr] at hnear
    unfold Nat.dist at hnear
    omega
  · obtain ⟨i, rfl⟩ := Nat.exists_eq_add_of_le hle
    obtain ⟨c', rfl⟩ : ∃ d, c' = d + 1 := by
      refine Nat.exists_eq_succ_of_ne_zero ?_
      rintro rfl
      omega
    obtain ⟨half, hhalf, hhalf', m, hm, hsum⟩ := precise_below hc' k'
    have hmul : c * 2 ^ (k' + i) = c * 2 ^ i * 2 ^ k' := by ring
    have hcoeff : c * 2 ^ i < c' + 1 := by
      rw [hr, hr', hmul] at hlt
      exact Nat.lt_of_mul_lt_mul_right hlt
    have hstep := Nat.mul_le_mul_right (2 ^ k') hcoeff
    rw [Nat.succ_mul, ← hmul, ← hr, ← hr'] at hstep
    have hpos := Nat.two_pow_pos k'
    have hnear := h'.nearest _ hm
    rw [← hr'] at hsum
    unfold Nat.dist at hnear
    omega

/-- A whole number is rounded to the one nearest number. -/
theorem nearestTo_iff {n r : Nat} : NearestTo n r ↔ roundToPrecision n 1 = r := by
  have hround := nearestTo_roundToPrecision n
  constructor
  · intro h
    exact Nat.le_antisymm (Nat.not_lt.mp (h.not_lt hround)) (Nat.not_lt.mp (hround.not_lt h))
  · rintro rfl
    exact hround

theorem nearestTo_of_precise (h : Precise n) : NearestTo n n :=
  nearestTo_iff.mpr (roundToPrecision_self h)

end RequestValidation
