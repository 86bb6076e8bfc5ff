import RequestValidation.Proofs.Decimal.Comparison
import RequestValidation.Proofs.Rule.Numbers
/-!
# Limits on counts

The validators for lengths and for arrays take the same limits, as binary64 numbers, and compare a
count with them in two ways. For a length a limit is first cut to a whole number, for an array it
stays as it is and the count is rounded. So a lower limit with a fraction lets a text through that
has only as many characters as its whole part, and no such array. Apart from that both mean the
same, up to counts that are no binary64 numbers.

Results:
* `cut_eq`, `le_nearest_iff`: a limit as it is compared, and where it is compared rightly.
* `accepts_isLength_iff`: what the validator for lengths accepts.
* `counts_limited`: when both mean the limits that the options name.
-/
namespace RequestValidation

open Binary64 (unitExponent)

/-! ## Limits -/

/-- The number that a count of units is. -/
def Binary64.value (x : Binary64) : ℚ := x.signedUnits / 2 ^ unitExponent

namespace Number

/-- The number that a document names. -/
def value : Number → ℚ
  | int i => i
  | float x => x.value

/-- The number that is compared in its place. -/
def nearest (b : Number) : ℚ := b.toBinary64.value

/-- A limit on lengths as a whole number. -/
def cut (b : Number) : Nat := (Extended64.finite b.toBinary64).toNatSaturating TextTest.maxCount

end Number

theorem units_pos : (0 : ℚ) < 2 ^ unitExponent := pow_pos (by norm_num) _

theorem Binary64.value_ofInt (i : Int) : (Binary64.ofInt i).value = roundInt i := by
  rw [Binary64.value, signedUnits_ofInt]
  push_cast
  exact mul_div_cancel_right₀ _ units_pos.ne'

theorem Binary64.value_zero : (Binary64.ofInt 0).value = 0 := by
  rw [value_ofInt]
  rfl

theorem Binary64.le_iff {x y : Binary64} : x.le y = true ↔ x.value ≤ y.value := by
  rw [Binary64.le, decide_eq_true_eq, value, value, div_le_div_iff_of_pos_right units_pos,
    Int.cast_le]

theorem Binary64.lt_iff {x y : Binary64} : x.lt y = true ↔ x.value < y.value := by
  rw [Binary64.lt, decide_eq_true_eq, value, value, div_lt_div_iff_of_pos_right units_pos,
    Int.cast_lt]

/-- What is not negative is cut to the whole part of its value. -/
theorem Binary64.toNatSaturating_eq {x : Binary64} (h : 0 ≤ x.value) (limit : Nat) :
    (Extended64.finite x).toNatSaturating limit = min ⌊x.value⌋₊ limit := by
  obtain ⟨negative, units⟩ := x
  cases negative with
  | false =>
    have hfloor : ⌊(units : ℚ) / (2 ^ unitExponent : Nat)⌋₊ = units / 2 ^ unitExponent :=
      Nat.floor_div_eq_div units (2 ^ unitExponent)
    have hvalue : Binary64.value ⟨false, units⟩ = units / (2 ^ unitExponent : Nat) := by
      rw [value, signedUnits, if_neg Bool.false_ne_true, Nat.cast_pow, Nat.cast_ofNat,
        Int.cast_natCast]
    have hcut : (Extended64.finite ⟨false, units⟩).toNatSaturating limit =
        min (units / Nat.pow 2 unitExponent) limit := rfl
    rw [hcut, hvalue, hfloor, Nat.pow_eq]
  | true =>
    -- only the zero with a sign is not negative
    have hvalue : Binary64.value ⟨true, units⟩ = -(units / 2 ^ unitExponent) := by
      rw [value, signedUnits, if_pos rfl]
      push_cast
      ring
    have hle : ⌊Binary64.value ⟨true, units⟩⌋₊ = 0 := by
      refine Nat.floor_eq_zero.mpr (lt_of_le_of_lt ?_ one_pos)
      rw [hvalue]
      exact neg_nonpos.mpr (div_nonneg (Nat.cast_nonneg units) units_pos.le)
    rw [hle, Nat.zero_min]
    rfl

/-- Up to so far integers are rounded to themselves. -/
theorem roundInt_natCast {n : Nat} (h : n ≤ 2 ^ 53) : roundInt n = n := by
  have hprecise : Precise n := by
    rcases Nat.lt_or_eq_of_le h with hlt | rfl
    · exact precise_of_lt hlt
    · exact precise_two_pow 53
  have hround := roundInt_withSign false n
  rwa [roundToPrecision_self hprecise] at hround

theorem le_roundInt_iff {n : Nat} (h : n ≤ 2 ^ 53) {i : Int} : n ≤ roundInt i ↔ n ≤ i := by
  have hmono := @roundInt_mono n i
  rw [roundInt_natCast h] at hmono
  refine ⟨fun hle => ?_, hmono⟩
  -- a smaller integer is rounded to itself
  by_contra hlt
  have hpos : 0 ≤ i := by
    have hneg := @roundInt_neg_iff i
    omega
  obtain ⟨j, rfl⟩ := Int.eq_ofNat_of_zero_le hpos
  have hself := roundInt_natCast (n := j) (by omega)
  omega

namespace Number

variable {b : Number} {n : Nat}

theorem nearest_int (i : Int) : (int i).nearest = roundInt i := Binary64.value_ofInt i

/-- Counts up to so many are compared rightly. -/
theorem le_nearest_iff (h : n ≤ 2 ^ 53) : n ≤ b.nearest ↔ n ≤ b.value := by
  cases b with
  | float x => rfl
  | int i =>
    rw [nearest_int, value]
    exact_mod_cast le_roundInt_iff h

theorem nearest_le_iff (h : n < 2 ^ 53) : b.nearest ≤ n ↔ b.value ≤ n := by
  cases b with
  | float x => rfl
  | int i =>
    have hnext : n + 1 ≤ roundInt i ↔ n + 1 ≤ i := by exact_mod_cast le_roundInt_iff h
    have hle : roundInt i ≤ n ↔ i ≤ n := by omega
    rw [nearest_int, value]
    exact_mod_cast hle

theorem nearest_nonneg (h : 0 ≤ b.value) : 0 ≤ b.nearest := by
  have hzero := (le_nearest_iff (b := b) (Nat.zero_le (2 ^ 53))).mpr
  rw [Nat.cast_zero] at hzero
  exact hzero h

theorem cut_eq (h : 0 ≤ b.value) : b.cut = min ⌊b.nearest⌋₊ TextTest.maxCount :=
  Binary64.toNatSaturating_eq (nearest_nonneg h) TextTest.maxCount

theorem maxCount_eq : TextTest.maxCount = 2 ^ 64 - 1 := by
  rw [TextTest.maxCount, Nat.pow_eq]

theorem le_cut_iff (h : 0 ≤ b.value) (hn : n ≤ 2 ^ 53) : n ≤ b.cut ↔ n ≤ b.value := by
  have hmax := maxCount_eq
  rw [cut_eq h, le_min_iff, Nat.le_floor_iff (nearest_nonneg h), le_nearest_iff hn]
  exact and_iff_left (by omega)

theorem cut_le_iff (h : 0 ≤ b.value) (hn : n < 2 ^ 53) : b.cut ≤ n ↔ ⌊b.value⌋₊ ≤ n := by
  have hnext := le_cut_iff h (Nat.succ_le_of_lt hn)
  rw [← Nat.le_floor_iff h] at hnext
  omega

end Number

/-! ## Ranges -/

/-- The limits on a count that options may name. -/
structure CountRange where
  min : Option Number
  max : Option Number

namespace CountRange

/-- Whether a count is within the limits. -/
def Holds (r : CountRange) (n : Nat) : Prop :=
  (∀ b ∈ r.min, b.value ≤ n) ∧ ∀ b ∈ r.max, n ≤ b.value

/-- Whether it is within the limits that are cut to whole numbers. -/
def HoldsCut (r : CountRange) (n : Nat) : Prop :=
  (∀ b ∈ r.min, b.cut ≤ n) ∧ ∀ b ∈ r.max, n ≤ b.cut

/-- Whether it is within the limits, all rounded to binary64 numbers. -/
def HoldsNearest (r : CountRange) (n : Nat) : Prop :=
  (∀ b ∈ r.min, b.nearest ≤ roundInt n) ∧ ∀ b ∈ r.max, roundInt n ≤ b.nearest

/-- Whether no limit is negative. -/
structure Nonneg (r : CountRange) : Prop where
  min : ∀ b ∈ r.min, 0 ≤ b.value
  max : ∀ b ∈ r.max, 0 ≤ b.value

variable {r : CountRange} {n : Nat}

theorem holdsNearest_iff (hn : n < 2 ^ 53) : r.HoldsNearest n ↔ r.Holds n := by
  rw [HoldsNearest, Holds, roundInt_natCast hn.le, Int.cast_natCast]
  refine and_congr ?_ ?_
  · exact forall₂_congr fun b _ => Number.nearest_le_iff hn
  · exact forall₂_congr fun b _ => Number.le_nearest_iff hn.le

/-- A cut lower limit lets one more count through if it had a fraction. -/
theorem holdsCut_iff (h : r.Nonneg) (hn : n < 2 ^ 53) :
    r.HoldsCut n ↔ (∀ b ∈ r.min, ⌊b.value⌋₊ ≤ n) ∧ ∀ b ∈ r.max, n ≤ b.value := by
  refine and_congr ?_ ?_
  · exact forall₂_congr fun b hb => Number.cut_le_iff (h.min b hb) hn
  · exact forall₂_congr fun b hb => Number.le_cut_iff (h.max b hb) hn.le

/-- Whether a count is the whole part of a lower limit with a fraction, and not too large. -/
def Undercut (r : CountRange) (n : Nat) : Prop :=
  (∃ b ∈ r.min, ⌊b.value⌋₊ = n ∧ n < b.value) ∧ ∀ b ∈ r.max, n ≤ b.value

theorem holdsCut_iff_holds (h : r.Nonneg) (hn : n < 2 ^ 53) :
    (r.HoldsCut n ↔ r.Holds n) ↔ ¬ r.Undercut n := by
  rw [holdsCut_iff h hn, Holds, Undercut, and_congr_left_iff, not_and']
  refine imp_congr_right fun _ => ?_
  constructor
  · rintro hiff ⟨b, hb, hfloor, hlt⟩
    have hle : ∀ b ∈ r.min, ⌊b.value⌋₊ ≤ n := by
      intro b' hb'
      obtain rfl := Option.mem_unique hb hb'
      exact hfloor.le
    exact absurd (hiff.mp hle b hb) (not_le.mpr hlt)
  · intro hnone
    refine forall₂_congr fun b hb => ⟨fun hfloor => ?_, Nat.floor_le_of_le⟩
    by_contra hlt
    have hle : n ≤ ⌊b.value⌋₊ := Nat.le_floor (not_le.mp hlt).le
    exact hnone ⟨b, hb, Nat.le_antisymm hfloor hle, not_le.mp hlt⟩

end CountRange

/-! ## Options -/

/-- Whether the limits that options name are the numbers of a range. -/
structure Options.NamesRange (o : Options) (r : CountRange) : Prop where
  min : o.find? "min" = r.min.map Json.number
  max : o.find? "max" = r.max.map Json.number

variable {o : Options} {r : CountRange}

theorem Options.bound?_of_number {key : String} {b : Option Number}
    (h : o.find? key = b.map Json.number) :
    o.bound? key = .ok (b.map fun b => .finite b.toBinary64) := by
  rw [Options.bound?, h]
  cases b <;> rfl

theorem Number.not_lt_zero {b : Number} (h : 0 ≤ b.value) :
    (Extended64.finite b.toBinary64).lt (.ofInt 0) = false := by
  have hle : (Binary64.ofInt 0).value ≤ b.toBinary64.value :=
    Binary64.value_zero ▸ nearest_nonneg h
  exact Bool.eq_false_iff.mpr fun hlt => absurd (Binary64.lt_iff.mp hlt) (not_lt.mpr hle)

/-- The test that limits on lengths come to. -/
theorem lengthTest_eq (h : o.NamesRange r) (hnonneg : r.Nonneg) :
    TextTest.lengthTest o =
      .ok (.length ((r.min.map Number.cut).getD 0) (r.max.map Number.cut)) := by
  have hmin : ((r.min.map fun b => Extended64.finite b.toBinary64).getD (.ofInt 0)).lt (.ofInt 0) =
      false := by
    cases hb : r.min with
    | none => exact Binary64.lt_irrefl _
    | some b => exact Number.not_lt_zero (hnonneg.min b hb)
  have hmax :
      (r.max.map fun b => Extended64.finite b.toBinary64).any (·.lt (.ofInt 0)) = false := by
    cases hb : r.max with
    | none => rfl
    | some b => exact Number.not_lt_zero (hnonneg.max b hb)
  rw [TextTest.lengthTest, Options.bound?_of_number h.min, Options.bound?_of_number h.max]
  simp only [bind, Except.bind, hmin, hmax, Bool.or_self, if_neg Bool.false_ne_true,
    Option.map_map, Function.comp_def]
  cases r.min with
  | some b => rfl
  | none =>
    have hzero : (Extended64.ofInt 0).toNatSaturating TextTest.maxCount = 0 := by
      rw [Extended64.ofInt, Binary64.toNatSaturating_eq Binary64.value_zero.ge,
        Binary64.value_zero, Nat.floor_zero, Nat.zero_min]
    simp only [Option.map_none, Option.getD_none, hzero]
    rfl

namespace Rule

variable {args : Arguments} {n : Nat}

/-- A validator accepts an array as a whole. -/
def AcceptsArray (r : Rule) (args : Arguments) (vs : List Json) : Prop :=
  r.verdicts args (some (.array vs)) = .ok [⟨some (.array vs), true⟩]

theorem accepts_isLength_iff (ho : args.options 0 = .ok o) (h : o.NamesRange r)
    (hnonneg : r.Nonneg) {t : String} : isLength.Accepts args t ↔ r.HoldsCut t.length := by
  have htest : TextTest.ofRule isLength args =
      .ok (.length ((r.min.map Number.cut).getD 0) (r.max.map Number.cut)) :=
    bind_ok_iff.mpr ⟨o, ho, lengthTest_eq h hnonneg⟩
  have hleast : (r.min.map Number.cut).getD 0 ≤ t.length ↔ ∀ b ∈ r.min, b.cut ≤ t.length := by
    cases r.min <;> simp
  rw [accepts_iff_passes fun _ => rfl, htest]
  simp only [Except.ok.injEq, exists_eq_left', TextTest.passes, Bool.and_eq_true,
    decide_eq_true_eq, Option.all_map, Option.all_eq_true, hleast]
  rfl

theorem acceptsArray_isArray_iff (ho : args.options 0 = .ok o) (h : o.NamesRange r)
    {vs : List Json} : isArray.AcceptsArray args vs ↔ r.HoldsNearest vs.length := by
  have hwithin : isArrayWithin o (some (.array vs)) =
      .ok (Bounds.contains ⟨r.min.map fun b => .finite b.toBinary64,
        r.max.map fun b => .finite b.toBinary64, none, none⟩ (.ofInt vs.length)) := by
    rw [isArrayWithin, Options.bound?_of_number h.min, Options.bound?_of_number h.max]
    rfl
  have hverdicts : isArray.verdicts args (some (.array vs)) =
    (args.options 0 >>= fun o => isArrayWithin o (some (.array vs)) >>= fun passed =>
      .ok [⟨some (.array vs), passed⟩]) := rfl
  have hle (b : Number) :
      (Extended64.finite b.toBinary64).le (.ofInt vs.length) = true ↔
        b.nearest ≤ roundInt vs.length := by
    rw [← Binary64.value_ofInt]
    exact Binary64.le_iff
  have hge (b : Number) :
      (Extended64.ofInt vs.length).le (.finite b.toBinary64) = true ↔
        roundInt vs.length ≤ b.nearest := by
    rw [← Binary64.value_ofInt]
    exact Binary64.le_iff
  rw [AcceptsArray, hverdicts, ho]
  simp [bind, Except.bind, hwithin, Bounds.contains, Option.all_map, Option.all_eq_true, hle, hge,
    CountRange.HoldsNearest]

/-- Whether the validators for lengths and for arrays make the same of a text and an array, namely
what the limits say. -/
def SameByLimits (args : Arguments) (r : CountRange) (t : String) (vs : List Json) : Prop :=
  (isLength.Accepts args t ↔ isArray.AcceptsArray args vs) ∧
    (isLength.Accepts args t ↔ r.Holds t.length)

/-- What the validators for lengths and for arrays make of limits, of a text and an array with as
many items as the text has characters. -/
structure CountLimits (args : Arguments) (r : CountRange) (t : String) (vs : List Json) :
    Prop where
  length_iff : isLength.Accepts args t ↔ r.HoldsCut t.length
  array_iff : isArray.AcceptsArray args vs ↔ r.HoldsNearest t.length
  same_iff : SameByLimits args r t vs ↔
    (r.HoldsCut t.length ↔ r.Holds t.length) ∧ (r.HoldsNearest t.length ↔ r.Holds t.length)
  same_iff_of_lt : t.length < 2 ^ 53 → (SameByLimits args r t vs ↔ ¬ r.Undercut t.length)

/-- **The limits of lengths and of arrays.** A length is compared with the whole parts of the limits
and a number of items with the limits themselves. Both mean what the limits say, and so the same,
but for a count that is the whole part of a lower limit with a fraction, as long as counts and
limits are not so large that they are rounded. -/
theorem counts_limited (ho : args.options 0 = .ok o) (h : o.NamesRange r) (hnonneg : r.Nonneg)
    {t : String} {vs : List Json} (hcount : vs.length = t.length) : CountLimits args r t vs := by
  have hlength : isLength.Accepts args t ↔ r.HoldsCut t.length := accepts_isLength_iff ho h hnonneg
  have harray : isArray.AcceptsArray args vs ↔ r.HoldsNearest t.length := by
    rw [acceptsArray_isArray_iff ho h, hcount]
  have hsame : SameByLimits args r t vs ↔ (r.HoldsCut t.length ↔ r.Holds t.length) ∧
      (r.HoldsNearest t.length ↔ r.Holds t.length) := by
    rw [SameByLimits, hlength, harray]
    constructor
    · rintro ⟨hagree, hright⟩
      exact ⟨hright, hagree.symm.trans hright⟩
    · rintro ⟨hcut, hnearest⟩
      exact ⟨hcut.trans hnearest.symm, hcut⟩
  refine ⟨hlength, harray, hsame, fun hlt => ?_⟩
  rw [hsame, CountRange.holdsCut_iff_holds hnonneg hlt]
  exact and_iff_left (CountRange.holdsNearest_iff hlt)

/-- Two or three. -/
def twoOrThree : CountRange := ⟨some (.int 2), some (.int 3)⟩

theorem two_same_by_limits :
    twoOrThree.Nonneg ∧
      SameByLimits [.object [("min", .int 2), ("max", .int 3)]] twoOrThree "ab" [.null, .null] := by
  have hnonneg : twoOrThree.Nonneg := by
    constructor
    · rintro _ ⟨⟩
      norm_num [Number.value]
    · rintro _ ⟨⟩
      norm_num [Number.value]
  have hnames : Options.NamesRange [("min", .int 2), ("max", .int 3)] twoOrThree := ⟨rfl, rfl⟩
  have hlimits : CountLimits [.object [("min", .int 2), ("max", .int 3)]] twoOrThree "ab"
      [.null, .null] := counts_limited rfl hnames hnonneg rfl
  have hlength : "ab".length = 2 := rfl
  refine ⟨hnonneg, (hlimits.same_iff_of_lt (by decide)).mpr ?_⟩
  rw [hlength]
  rintro ⟨⟨b, ⟨⟩, -, hlt⟩, -⟩
  norm_num [Number.value] at hlt

/-- Two and a half. -/
def twoAndHalf : Number := .float ⟨false, 5 * Nat.pow 2 (unitExponent - 1)⟩

theorem value_twoAndHalf : twoAndHalf.value = 5 / 2 := by
  obtain ⟨k, hk⟩ : ∃ k, unitExponent = k + 1 := Nat.exists_eq_succ_of_ne_zero (by decide)
  rw [twoAndHalf, Number.value, Binary64.value, Binary64.signedUnits, if_neg Bool.false_ne_true,
    Nat.pow_eq, hk, Nat.add_sub_cancel]
  have hpos : (0 : ℚ) < 2 ^ k := pow_pos (by norm_num) k
  push_cast
  field_simp
  ring

/-- At least two and a half are asked for; two characters pass, and two items do not. -/
theorem two_pass_for_two_and_half :
    isLength.Accepts [.object [("min", .number twoAndHalf)]] "ab" ∧
      ¬ isArray.AcceptsArray [.object [("min", .number twoAndHalf)]] [.null, .null] ∧
      ¬ CountRange.Holds ⟨some twoAndHalf, none⟩ 2 := by
  have hvalue := value_twoAndHalf
  have hnonneg : CountRange.Nonneg ⟨some twoAndHalf, none⟩ := by
    refine ⟨?_, nofun⟩
    rintro _ ⟨⟩
    rw [hvalue]
    norm_num
  have hnames : Options.NamesRange [("min", .number twoAndHalf)] ⟨some twoAndHalf, none⟩ :=
    ⟨rfl, rfl⟩
  have hmissed : ¬ CountRange.Holds ⟨some twoAndHalf, none⟩ 2 := by
    rintro ⟨hmin, -⟩
    have hle := hmin twoAndHalf rfl
    rw [hvalue] at hle
    norm_num at hle
  have hcut : CountRange.HoldsCut ⟨some twoAndHalf, none⟩ 2 := by
    refine (CountRange.holdsCut_iff hnonneg (by norm_num)).mpr ⟨?_, nofun⟩
    rintro _ ⟨⟩
    rw [hvalue]
    norm_num
  refine ⟨(accepts_isLength_iff rfl hnames hnonneg).mpr hcut, fun haccepts => ?_, hmissed⟩
  have hnearest := (acceptsArray_isArray_iff rfl hnames).mp haccepts
  exact hmissed ((CountRange.holdsNearest_iff (by norm_num)).mp hnearest)

end Rule
end RequestValidation
