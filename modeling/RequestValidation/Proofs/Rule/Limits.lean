import RequestValidation.Proofs.Decimal.Comparison
import RequestValidation.Proofs.Rule.Numbers
/-!
# Limits on integers

The limits of a numeric validator and the number of its text are compared as binary64 numbers. An
integer is told from a limit as long as the two are not blurred; an inclusive limit counts as met by
an integer that is blurred with it, and an exclusive one as missed.

Results:
* `Side.test_iff`, `Side.passes_iff_meets`: what a limit lets through, and when it is right.
* `contains_whole_iff`: the limits together.
* `isInt_limits`: which integers the validator accepts, and when it is right about its limits.
-/
namespace RequestValidation

/-! ## One limit -/

/-- The limits that options may name. -/
inductive Side where
  | min
  | max
  | gt
  | lt
deriving DecidableEq, Repr

namespace Side

/-- The option with the limit. -/
def key : Side → String
  | min => "min"
  | max => "max"
  | gt => "gt"
  | lt => "lt"

/-- Whether an integer is within a limit. -/
def Meets : Side → Int → Int → Prop
  | min, l, n => l ≤ n
  | max, l, n => n ≤ l
  | gt, l, n => l < n
  | lt, l, n => n < l

instance : ∀ s l n, Decidable (Meets s l n)
  | min, l, n => inferInstanceAs (Decidable (l ≤ n))
  | max, l, n => inferInstanceAs (Decidable (n ≤ l))
  | gt, l, n => inferInstanceAs (Decidable (l < n))
  | lt, l, n => inferInstanceAs (Decidable (n < l))

/-- Whether a limit is not within itself. -/
def IsExclusive (s : Side) : Prop := s = gt ∨ s = lt

/-- Whether an integer passes a limit: one that is blurred with an inclusive limit always does, and
one that is blurred with an exclusive limit never does. -/
def Passes : Side → Int → Int → Prop
  | min, l, n => l ≤ n ∨ Blurs l n
  | max, l, n => n ≤ l ∨ Blurs l n
  | gt, l, n => l < n ∧ ¬ Blurs l n
  | lt, l, n => n < l ∧ ¬ Blurs l n

theorem passes_of_meets {s : Side} {l n : Int} (h : s.Meets l n)
    (hclear : s.IsExclusive → ¬ Blurs l n) : s.Passes l n := by
  cases s with
  | min => exact .inl h
  | max => exact .inl h
  | gt => exact ⟨h, hclear (.inl rfl)⟩
  | lt => exact ⟨h, hclear (.inr rfl)⟩

theorem Passes.not_blurs {s : Side} {l n : Int} (h : s.Passes l n) (hs : s.IsExclusive) :
    ¬ Blurs l n := by
  rcases hs with rfl | rfl <;> exact h.2

/-- Without a blur, a limit lets through what meets it. -/
theorem passes_iff_meets {s : Side} {l n : Int} (h : Blurs l n → l = n) :
    s.Passes l n ↔ s.Meets l n := by
  cases s <;> simp only [Passes, Meets]
  · exact or_iff_left_of_imp fun hblurs => Int.le_of_eq (h hblurs)
  · exact or_iff_left_of_imp fun hblurs => Int.le_of_eq (h hblurs).symm
  · exact and_iff_left_of_imp fun hlt hblurs => absurd (h hblurs) (Int.ne_of_lt hlt)
  · exact and_iff_left_of_imp fun hlt hblurs => absurd (h hblurs) (Int.ne_of_gt hlt)

/-- The limit of some bounds on a side. -/
def bound (b : Bounds) : Side → Option Extended64
  | min => b.min
  | max => b.max
  | gt => b.gt
  | lt => b.lt

/-- The comparison with a limit. -/
def test : Side → Extended64 → Extended64 → Bool
  | min, y, x => y.le x
  | max, y, x => x.le y
  | gt, y, x => y.lt x
  | lt, y, x => x.lt y

theorem contains_iff {b : Bounds} {x : Extended64} :
    b.contains x = true ↔ ∀ s, ∀ y ∈ bound b s, test s y x = true := by
  have hall (p : Side → Prop) : (∀ s, p s) ↔ p min ∧ p max ∧ p gt ∧ p lt :=
    ⟨fun h => ⟨h min, h max, h gt, h lt⟩, fun ⟨h₁, h₂, h₃, h₄⟩ s => by cases s <;> assumption⟩
  rw [hall]
  simp [Bounds.contains, bound, test, Option.all_eq_true, and_assoc]

theorem test_iff {s : Side} {l n : Int} {y x : Extended64}
    (h : OrderedAs y x (roundInt l) (roundInt n)) : test s y x = true ↔ s.Passes l n := by
  have hblurs : Blurs n l ↔ Blurs l n := by rw [blurs_iff, blurs_iff, eq_comm]
  cases s with
  | min => exact h.le.trans roundInt_le_iff
  | max => exact h.ge.trans (roundInt_le_iff.trans (or_congr_right hblurs))
  | gt => exact h.lt.trans roundInt_lt_iff
  | lt => exact h.gt.trans (roundInt_lt_iff.trans (and_congr_right fun _ => not_congr hblurs))

end Side

/-! ## Options -/

/-- Whether the limits that options name are integers of 64 bits. -/
structure Options.Limited (o : Options) (limit : Side → Option Int) : Prop where
  find : ∀ s, o.find? s.key = (limit s).map Json.int
  fits : ∀ s l, limit s = some l → FitsInt64 l

/-- The limits as binary64 numbers. -/
def boundsOf (limit : Side → Option Int) : Bounds where
  min := (limit .min).map fun l => .finite (.ofInt l)
  max := (limit .max).map fun l => .finite (.ofInt l)
  gt := (limit .gt).map fun l => .finite (.ofInt l)
  lt := (limit .lt).map fun l => .finite (.ofInt l)

variable {o : Options} {limit : Side → Option Int}

theorem Options.Limited.read (h : o.Limited limit) : Bounds.read o = .ok (boundsOf limit) := by
  have hbound (s : Side) :
      o.bound? s.key = .ok ((limit s).map fun l => .finite (.ofInt l)) := by
    rw [Options.bound?, h.find s]
    cases limit s <;> rfl
  have hmin := hbound .min
  have hmax := hbound .max
  have hgt := hbound .gt
  have hlt := hbound .lt
  simp only [Side.key] at hmin hmax hgt hlt
  simp [Bounds.read, hmin, hmax, hgt, hlt, bind, Except.bind, boundsOf]

/-- A whole number in digits is within the limits if it passes each of them. -/
theorem contains_whole_iff (h : o.Limited limit) (negative : Bool) (ds : List Char) :
    (boundsOf limit).contains (Numeral.value ⟨negative, ds, [], 0⟩) = true ↔
      ∀ s l, limit s = some l → s.Passes l (withSign negative (natOfDigits ds)) := by
  have hbound (s : Side) :
      s.bound (boundsOf limit) = (limit s).map fun l => .finite (.ofInt l) := by
    cases s <;> rfl
  rw [Side.contains_iff]
  constructor
  · intro htest s l hl
    refine (Side.test_iff (orderedAs_whole (h.fits s l hl) negative ds)).mp (htest s _ ?_)
    rw [hbound s, hl]
    rfl
  · intro hpasses s y hy
    rw [hbound s] at hy
    obtain ⟨l, hl, rfl⟩ := Option.mem_map.mp hy
    exact (Side.test_iff (orderedAs_whole (h.fits s l hl) negative ds)).mpr (hpasses s l hl)

/-! ## The validator -/

namespace Rule

variable {args : Arguments} {t : String} {negative : Bool} {ds : List Char}

/-- Whether options allow digits as they begin. -/
def ZerosAllowed (o : Options) (ds : List Char) : Prop :=
  o.flagOrOn "allow_leading_zeroes" = true ∨ NoZeroInFront ds

theorem accepts_isInt_limited (ho : args.options 0 = .ok o) (hlimits : o.Limited limit)
    (hwhole : WritesWhole negative ds t.toList) :
    isInt.Accepts args t ↔ ZerosAllowed o ds ∧
      ∀ s l, limit s = some l → s.Passes l (withSign negative (natOfDigits ds)) := by
  rw [accepts_isInt_iff, ← contains_whole_iff hlimits]
  constructor
  · rintro ⟨o', bounds, ho', hbounds, negative', ds', hwhole', hzeros, hwithin⟩
    obtain rfl := Except.ok.inj (ho.symm.trans ho')
    obtain rfl := Except.ok.inj (hlimits.read.symm.trans hbounds)
    obtain ⟨rfl, rfl⟩ := Prod.mk.inj ((splitSign_whole hwhole).symm.trans (splitSign_whole hwhole'))
    exact ⟨hzeros, hwithin⟩
  · rintro ⟨hzeros, hwithin⟩
    exact ⟨o, boundsOf limit, ho, hlimits.read, negative, ds, hwhole, hzeros, hwithin⟩

/-- What the validator makes of an integer and of the limits that its options name. -/
structure IntLimits (args : Arguments) (t : String) (zeros : Prop) (limit : Side → Option Int)
    (n : Int) : Prop where
  accepts_iff : isInt.Accepts args t ↔ zeros ∧ ∀ s l, limit s = some l → s.Passes l n
  exact_iff : (isInt.Accepts args t ↔ ∀ s l, limit s = some l → s.Meets l n) ↔
    ((∀ s l, limit s = some l → s.Meets l n) →
      zeros ∧ ∀ s l, limit s = some l → s.IsExclusive → ¬ Blurs l n) ∧
    ((∃ s l, limit s = some l ∧ ¬ s.Meets l n) →
      ¬ zeros ∨ ∃ s l, limit s = some l ∧ ¬ s.Passes l n)
  exact_of_precise : zeros → Precise n.natAbs → (∀ s l, limit s = some l → Precise l.natAbs) →
    (isInt.Accepts args t ↔ ∀ s l, limit s = some l → s.Meets l n)

/-- **The limits of integers.** A whole number in digits is accepted if it passes each of the limits
that the options name. The limits are exact but for integers that are blurred with one of them. -/
theorem isInt_limits (ho : args.options 0 = .ok o) (hlimits : o.Limited limit)
    (hwhole : WritesWhole negative ds t.toList) :
    IntLimits args t (ZerosAllowed o ds) limit (withSign negative (natOfDigits ds)) := by
  have haccepts := accepts_isInt_limited ho hlimits hwhole
  generalize withSign negative (natOfDigits ds) = n at haccepts ⊢
  generalize ZerosAllowed o ds = zeros at haccepts ⊢
  refine ⟨haccepts, ?_, ?_⟩
  · rw [haccepts]
    constructor
    · intro hexact
      refine ⟨fun hmeets => ?_, ?_⟩
      · obtain ⟨hzeros, hpasses⟩ := hexact.mpr hmeets
        exact ⟨hzeros, fun s l hl => (hpasses s l hl).not_blurs⟩
      · -- an integer that passes although it misses a limit is accepted in error
        rintro ⟨s, l, hl, hmissed⟩
        by_contra hboth
        push Not at hboth
        exact hmissed (hexact.mp hboth s l hl)
    · rintro ⟨hmet, hmissed⟩
      constructor
      · rintro ⟨hzeros, hpasses⟩ s l hl
        by_contra hnot
        rcases hmissed ⟨s, l, hl, hnot⟩ with hbarred | ⟨s', l', hl', hfails⟩
        · exact hbarred hzeros
        · exact hfails (hpasses s' l' hl')
      · intro hmeets
        obtain ⟨hzeros, hclear⟩ := hmet hmeets
        exact ⟨hzeros, fun s l hl => Side.passes_of_meets (hmeets s l hl) (hclear s l hl)⟩
  · intro hzeros hn hl
    rw [haccepts, and_iff_right hzeros]
    refine forall_congr' fun s => forall_congr' fun l => forall_congr' fun hs => ?_
    exact Side.passes_iff_meets fun hblurs => hblurs.eq_of_precise (hl s l hs) hn

/-- A range of one-digit numbers. -/
def digitRange : Options := [("min", .int 1), ("lt", .int 10)]

def digitLimits : Side → Option Int
  | .min => some 1
  | .lt => some 10
  | _ => none

theorem digitLimits_lt {s : Side} {l : Int} (h : digitLimits s = some l) : 0 ≤ l ∧ l < 16 := by
  cases s <;> simp [digitLimits] at h <;> omega

theorem limited_digitRange : digitRange.Limited digitLimits where
  find s := by cases s <;> rfl
  fits s l h := by
    have hlt := digitLimits_lt h
    unfold FitsInt64
    omega

theorem seven_in_range : isInt.Accepts [.object digitRange] "+7" := by
  have hrun : DigitRun ['7'] := ⟨List.cons_ne_nil _ _, List.all_eq_true.mp rfl⟩
  have hseven : WritesWhole false ['7'] "+7".toList := .mk .plus hrun
  refine ((isInt_limits rfl limited_digitRange hseven).exact_of_precise (.inr ?_) ?_ ?_).mpr ?_
  · exact .inr (by decide)
  · exact precise_of_lt (by decide)
  · intro s l h
    have hlt := digitLimits_lt h
    exact precise_of_lt (by omega)
  · intro s l h
    have hvalue : withSign false (natOfDigits ['7']) = 7 := rfl
    rw [hvalue]
    cases s <;> simp [digitLimits] at h <;> subst h <;> decide

/-- A limit that the next integer is blurred with. -/
def roundLimit : Options := [("max", .int 9007199254740992)]

def roundLimits : Side → Option Int
  | .max => some 9007199254740992
  | _ => none

theorem eq_of_roundLimits {s : Side} {l : Int} (h : roundLimits s = some l) :
    s = .max ∧ l = 9007199254740992 := by
  cases s <;> simp [roundLimits] at h
  exact ⟨rfl, h.symm⟩

/-- The next integer is accepted, too. -/
theorem larger_than_limit_accepted :
    roundLimit.Limited roundLimits ∧
      WritesWhole false "9007199254740993".toList "9007199254740993".toList ∧
      withSign false (natOfDigits "9007199254740993".toList) = 9007199254740993 ∧
      isInt.Accepts [.object roundLimit] "9007199254740993" ∧
      ¬ Side.max.Meets 9007199254740992 9007199254740993 := by
  have hlimited : roundLimit.Limited roundLimits := by
    refine ⟨fun s => by cases s <;> rfl, fun s l h => ?_⟩
    obtain ⟨-, rfl⟩ := eq_of_roundLimits h
    exact ⟨by norm_num, by norm_num⟩
  have hall : "9007199254740993".toList.all Char.isDigit = true := by decide +kernel
  have hvalue : withSign false (natOfDigits "9007199254740993".toList) = 9007199254740993 := by
    decide +kernel
  have hround : roundInt 9007199254740992 = roundInt 9007199254740993 := by decide +kernel
  have hrun : DigitRun "9007199254740993".toList :=
    ⟨List.cons_ne_nil _ _, List.all_eq_true.mp hall⟩
  refine ⟨hlimited, hrun.writesWhole, hvalue, ?_, by decide⟩
  rw [accepts_isInt_limited rfl hlimited hrun.writesWhole, hvalue]
  refine ⟨.inl rfl, fun s l h => ?_⟩
  obtain ⟨rfl, rfl⟩ := eq_of_roundLimits h
  exact .inr (blurs_iff.mpr hround)

end Rule
end RequestValidation
