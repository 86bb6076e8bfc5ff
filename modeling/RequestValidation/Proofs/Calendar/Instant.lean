import Mathlib.Data.List.Induction
import Mathlib.Data.Rat.Floor
import RequestValidation.Proofs.Calendar.Forms
import RequestValidation.Proofs.Decimal.Digits
/-!
# Instants

With the days of the calendar numbered, a date and a time with its offset from UTC is a point on a
line of seconds: the instant that it names. The moment in UTC that is read of a stamp is this
instant, cut to nanoseconds; a whole second of nanoseconds on top tells a sixtieth second from the
first of the next minute.

Results:
* `Date.dayNumber_tomorrow`, `Date.dayNumber_yesterday`: the days are numbered one after the other.
* `nanosOf_div`: the milliseconds of a fraction, whatever number of digits it has.
* `Moment.millis_back`: to put a clock back is to subtract.
* `Stamp.millis_utc`: the moment of a stamp is its instant, cut to milliseconds.
-/
namespace RequestValidation.Calendar

/-! ## Days -/

/-- Days from the first day of the year 1 to the first of a year. -/
def daysBeforeYear (year : Int) : Int :=
  365 * (year - 1) + (year - 1) / 4 - (year - 1) / 100 + (year - 1) / 400

/-- Days in the first months of a year. -/
def daysOfMonths (year : Int) : Nat → Nat
  | 0 => 0
  | months + 1 => daysOfMonths year months + daysInMonth year (months + 1)

theorem daysBeforeYear_succ (year : Int) :
    daysBeforeYear (year + 1) = daysBeforeYear year + if isLeapYear year then 366 else 365 := by
  have hleap : isLeapYear year = true ↔ year % 4 = 0 ∧ (year % 100 ≠ 0 ∨ year % 400 = 0) := by
    simp [isLeapYear]
  unfold daysBeforeYear
  split
  · rename_i h
    have hyear := hleap.mp h
    omega
  · rename_i h
    have hyear := mt hleap.mpr h
    omega

theorem daysOfMonths_twelve (year : Int) :
    daysOfMonths year 12 = if isLeapYear year then 366 else 365 := by
  cases hleap : isLeapYear year <;> simp [daysOfMonths, daysInMonth, hleap]

namespace Date

/-- Days since the first of January of the year 1970. -/
def dayNumber (d : Date) : Int :=
  daysBeforeYear d.year - daysBeforeYear 1970 + daysOfMonths d.year (d.month - 1) + d.day - 1

example : (⟨1970, 1, 1⟩ : Date).dayNumber = 0 := by decide

theorem dayNumber_tomorrow {d : Date} (h : d.Valid) : d.tomorrow.dayNumber = d.dayNumber + 1 := by
  obtain ⟨y, m, day⟩ := d
  obtain ⟨hmonth, hmonth', hday, hday'⟩ := h
  dsimp only at hmonth hmonth' hday hday'
  unfold tomorrow dayNumber
  dsimp only
  split
  · push_cast
    omega
  · -- the last day of its month
    obtain ⟨k, rfl⟩ : ∃ k, m = k + 1 := ⟨m - 1, by omega⟩
    have hmonths : daysOfMonths y (k + 1) = daysOfMonths y k + daysInMonth y (k + 1) := rfl
    simp only [Nat.add_sub_cancel]
    split
    · dsimp only
      rw [Nat.add_sub_cancel, hmonths]
      push_cast
      omega
    · obtain rfl : k = 11 := by omega
      have hyear := daysOfMonths_twelve y
      have hnext := daysBeforeYear_succ y
      have hzero : daysOfMonths (y + 1) 0 = 0 := rfl
      rw [hmonths] at hyear
      rw [hnext, Nat.sub_self, hzero]
      split at hyear
      · rename_i hleap
        rw [if_pos hleap]
        push_cast
        omega
      · rename_i hleap
        rw [if_neg hleap]
        push_cast
        omega

theorem tomorrow_yesterday {d : Date} (h : d.Valid) : d.yesterday.tomorrow = d := by
  obtain ⟨y, m, day⟩ := d
  obtain ⟨hmonth, hmonth', hday, hday'⟩ := h
  dsimp only at hmonth hmonth' hday hday'
  unfold yesterday
  dsimp only
  split
  · unfold tomorrow
    dsimp only
    rw [if_pos (by omega), Nat.sub_add_cancel hday]
  · obtain rfl : day = 1 := by omega
    split
    · unfold tomorrow
      dsimp only
      rw [if_neg (by omega), if_pos (by omega), Nat.sub_add_cancel hmonth]
    · obtain rfl : m = 1 := by omega
      have hdecember : daysInMonth (y - 1) 12 = 31 := rfl
      unfold tomorrow
      dsimp only
      rw [if_neg (by omega), if_neg (by omega), Int.sub_add_cancel]

theorem dayNumber_yesterday {d : Date} (h : d.Valid) :
    d.yesterday.dayNumber = d.dayNumber - 1 := by
  have hnext := dayNumber_tomorrow (yesterday_valid h)
  rw [tomorrow_yesterday h] at hnext
  omega

end Date

/-! ## Fractions -/

theorem nanosOf_short {ds : List Char} (h : ds.length ≤ 9) :
    nanosOf ds = natOfDigits ds * 10 ^ (9 - ds.length) := by
  rw [nanosOf, List.take_of_length_le h]
  rfl

theorem nanosOf_long {ds : List Char} (h : 9 ≤ ds.length) :
    nanosOf ds = natOfDigits (ds.take 9) := by
  rw [nanosOf, List.length_take, Nat.min_eq_left h]
  exact Nat.mul_one _

/-- A fraction is less than a second. -/
theorem nanosOf_lt {ds : List Char} (h : ∀ c ∈ ds, c.isDigit = true) : nanosOf ds < 1000000000 := by
  rcases Nat.le_total ds.length 9 with hshort | hlong
  · rw [nanosOf_short hshort]
    calc natOfDigits ds * 10 ^ (9 - ds.length)
        < 10 ^ ds.length * 10 ^ (9 - ds.length) :=
          Nat.mul_lt_mul_of_pos_right (natOfDigits_lt h) (by positivity)
      _ = 10 ^ 9 := by rw [← pow_add, Nat.add_sub_cancel' hshort]
      _ = 1000000000 := by norm_num
  · rw [nanosOf_long hlong]
    have hfront := natOfDigits_lt fun c hc => h c (List.mem_of_mem_take (i := 9) hc)
    rw [List.length_take, Nat.min_eq_left hlong] at hfront
    exact lt_of_lt_of_eq hfront (by norm_num)

/-- The milliseconds of a fraction. -/
theorem nanosOf_div {ds : List Char} (h : ∀ c ∈ ds, c.isDigit = true) :
    nanosOf ds / 1000000 = natOfDigits ds * 1000 / 10 ^ ds.length := by
  rcases Nat.le_total ds.length 9 with hshort | hlong
  · have hpow : 10 ^ (9 - ds.length) * 10 ^ ds.length = 1000 * 1000000 := by
      rw [← pow_add, Nat.sub_add_cancel hshort]
      norm_num
    calc nanosOf ds / 1000000
        = natOfDigits ds * 10 ^ (9 - ds.length) * 10 ^ ds.length / (1000000 * 10 ^ ds.length) := by
          rw [nanosOf_short hshort, Nat.mul_div_mul_right _ _ (by positivity)]
      _ = natOfDigits ds * 1000 * 1000000 / (10 ^ ds.length * 1000000) := by
          rw [Nat.mul_assoc, hpow, Nat.mul_assoc, Nat.mul_comm 1000000]
      _ = natOfDigits ds * 1000 / 10 ^ ds.length := Nat.mul_div_mul_right _ _ (by norm_num)
  · -- the digits behind the ninth do not reach the milliseconds
    have hrest := natOfDigits_lt fun c hc => h c (List.mem_of_mem_drop (i := 9) hc)
    have hvalue : natOfDigits ds =
        natOfDigits (ds.take 9) * 10 ^ (ds.drop 9).length + natOfDigits (ds.drop 9) := by
      rw [← natOfDigits_append, List.take_append_drop]
    have hlength : ds.length = (ds.drop 9).length + 9 := by
      rw [List.length_drop, Nat.sub_add_cancel hlong]
    have hpow : 10 ^ ((ds.drop 9).length + 9) = 10 ^ (ds.drop 9).length * 1000000 * 1000 := by
      rw [pow_add, Nat.mul_assoc]
      norm_num
    have hpos : 0 < 10 ^ (ds.drop 9).length := by positivity
    rw [nanosOf_long hlong, hlength, hvalue, hpow, Nat.mul_div_mul_right _ _ (by norm_num),
      ← Nat.div_div_eq_div_mul, Nat.mul_comm (natOfDigits _), Nat.mul_add_div hpos,
      Nat.div_eq_of_lt hrest, Nat.add_zero]

/-! ## Moments -/

namespace Moment

/-- A time of day on a date of the calendar; a leap second ends a minute. -/
structure Valid (m : Moment) : Prop where
  date : m.date.Valid
  second_lt : m.second < 86400
  nanos_lt : m.nanos < 2000000000
  leap : 1000000000 ≤ m.nanos → m.second % 60 = 59

/-- Milliseconds since the beginning of the year 1970. -/
def millis (m : Moment) : Int :=
  (m.date.dayNumber * 86400 + m.second) * 1000 + (m.nanos / 1000000 : Nat)

/-- A distance from UTC in whole minutes, less than a day. -/
structure IsOffset (o : Int) : Prop where
  neg_day_lt : -86400 < o
  lt_day : o < 86400
  minutes : o % 60 = 0

variable {m : Moment} {o : Int}

@[simp] theorem back_nanos (m : Moment) (o : Int) : (m.back o).nanos = m.nanos := by
  simp only [back]
  split
  · rfl
  · split <;> rfl

theorem back_date_valid (h : m.date.Valid) (o : Int) : (m.back o).date.Valid := by
  simp only [back]
  split
  · exact Date.yesterday_valid h
  · split
    · exact Date.tomorrow_valid h
    · exact h

/-- The clock shows a time of day again, at the same second of a minute. -/
theorem back_second (h : m.second < 86400) (ho : IsOffset o) :
    (m.back o).second < 86400 ∧ (m.back o).second % 60 = m.second % 60 := by
  obtain ⟨hlow, hhigh, hminutes⟩ := ho
  simp only [back]
  split
  · dsimp only
    omega
  · split
    · dsimp only
      omega
    · dsimp only
      omega

theorem Valid.back (h : m.Valid) (ho : IsOffset o) : (m.back o).Valid := by
  obtain ⟨hlt, hminute⟩ := back_second h.second_lt ho
  refine ⟨back_date_valid h.date o, hlt, ?_, ?_⟩
  · rw [back_nanos]
    exact h.nanos_lt
  · rw [back_nanos, hminute]
    exact h.leap

/-- To put a clock back is to subtract, also across midnight. -/
theorem millis_back (h : m.Valid) (ho : IsOffset o) : (m.back o).millis = m.millis - o * 1000 := by
  obtain ⟨hlow, hhigh, -⟩ := ho
  simp only [back]
  split
  · simp only [millis, Date.dayNumber_yesterday h.date]
    omega
  · split
    · simp only [millis, Date.dayNumber_tomorrow h.date]
      omega
    · simp only [millis]
      omega

end Moment

/-! ## Stamps -/

/-- What the grammar ensures of a fraction and an offset. -/
structure Stamp.Written (s : Stamp) : Prop where
  fraction : ∀ c ∈ s.fraction, c.isDigit = true
  offset : Moment.IsOffset s.offset

theorem WritesFraction.isDigit {ds cs : List Char} (h : WritesFraction ds cs) :
    ∀ c ∈ ds, c.isDigit = true := by
  cases h with
  | none => nofun
  | digits _ hdigit => exact hdigit

theorem WritesOffset.isOffset {o : Int} {cs : List Char} (h : WritesOffset o cs) :
    Moment.IsOffset o := by
  cases h with
  | zulu => exact ⟨by decide, by decide, by decide⟩
  | ahead _ _ hh hm => exact ⟨by omega, by omega, by omega⟩
  | behind _ _ _ hh hm => exact ⟨by omega, by omega, by omega⟩

theorem Denotes.written {s : Stamp} {cs : List Char} (h : Denotes s cs) : s.Written := by
  have hzero : Moment.IsOffset 0 := ⟨by decide, by decide, by decide⟩
  rcases h with h | h | h
  · obtain ⟨-, -, -, -, -, -, -, hfraction, hoffset⟩ := h
    exact ⟨hfraction.isDigit, hoffset.isOffset⟩
  · obtain ⟨-, -, -, -, hfraction⟩ := h
    exact ⟨hfraction.isDigit, hzero⟩
  · obtain ⟨-⟩ := h
    exact ⟨nofun, hzero⟩

namespace Stamp

variable {s : Stamp}

/-- Seconds since the beginning of the year 1970 in UTC. -/
def instant (s : Stamp) : ℚ :=
  (s.date.dayNumber * 86400 + s.hour * 3600 + s.minute * 60 + s.second - s.offset : Int) +
    natOfDigits s.fraction / 10 ^ s.fraction.length

theorem nanos_utc (s : Stamp) :
    s.utc.nanos = nanosOf s.fraction + if s.second = 60 then 1000000000 else 0 := by
  rw [utc, Moment.back_nanos, clock]
  split <;> rfl

/-- The sixtieth second stays one. -/
theorem leap_utc (hw : s.Written) : 1000000000 ≤ s.utc.nanos ↔ s.second = 60 := by
  have hnanos := nanosOf_lt hw.fraction
  rw [nanos_utc]
  split <;> omega

theorem valid_clock (hv : s.Valid) (hw : s.Written) : s.clock.Valid := by
  obtain ⟨-, -, hdate, hhour, hminute, hsecond⟩ := hv
  have hnanos := nanosOf_lt hw.fraction
  unfold clock
  split
  · exact ⟨hdate, by dsimp only; omega, by dsimp only; omega, fun _ => by dsimp only; omega⟩
  · exact ⟨hdate, by dsimp only; omega, by dsimp only; omega, fun h => by dsimp only at h; omega⟩

theorem valid_utc (hv : s.Valid) (hw : s.Written) : s.utc.Valid :=
  (valid_clock hv hw).back hw.offset

theorem millis_clock (s : Stamp) : s.clock.millis =
    (s.date.dayNumber * 86400 + s.hour * 3600 + s.minute * 60 + s.second) * 1000 +
      (nanosOf s.fraction / 1000000 : Nat) := by
  unfold clock
  split
  · rename_i hsecond
    simp only [Moment.millis, hsecond]
    omega
  · simp only [Moment.millis]
    omega

/-- Whole seconds are not cut, and of a fraction its milliseconds are left. -/
theorem floor_mul_thousand (seconds : Int) (ds : List Char) :
    ⌊((seconds : ℚ) + natOfDigits ds / 10 ^ ds.length) * 1000⌋ =
      seconds * 1000 + (natOfDigits ds * 1000 / 10 ^ ds.length : Nat) := by
  have hsplit : ((seconds : ℚ) + natOfDigits ds / 10 ^ ds.length) * 1000 =
      (seconds * 1000 : Int) + (natOfDigits ds * 1000 : Nat) / (10 ^ ds.length : Nat) := by
    push_cast
    ring
  rw [hsplit, Int.floor_intCast_add, Rat.floor_natCast_div_natCast]
  rfl

/-- The moment of a stamp is the instant that the stamp names, cut to milliseconds. -/
theorem millis_utc (hv : s.Valid) (hw : s.Written) : s.utc.millis = ⌊s.instant * 1000⌋ := by
  rw [utc, Moment.millis_back (valid_clock hv hw) hw.offset, millis_clock,
    nanosOf_div hw.fraction, instant, floor_mul_thousand]
  ring

end Stamp

end RequestValidation.Calendar
