import Mathlib.Data.Nat.Digits.Defs
import RequestValidation.Proofs.Calendar.Instant
import RequestValidation.Proofs.Json.Literals
/-!
# Reading rendered moments

A moment is rendered in UTC with three digits behind the seconds. If its year has four digits and
no sign, this is a time with an offset again, and it says the moment cut to milliseconds; it is
rendered as it was. With a sign before the year it has no form of a date: the forms with an offset
have no sign, those with a sign have no offset.

Results:
* `digits_padded`: a number is padded to a run of digits.
* `zoned_render`, `Stamp.valid_stamp`: a rendered moment is a time of the calendar.
* `moment?_render`: it is read back, cut to milliseconds.
* `isDateText_render`: it passes as a date just if its year has four digits.
* `instant_stamp`: what is rendered is the moment, cut to milliseconds.
-/
namespace RequestValidation.Calendar

/-! ## Padded numbers -/

theorem isDigit_padded {width n : Nat} : ∀ c ∈ Moment.padded width n, c.isDigit = true := by
  intro c hc
  rcases List.mem_append.mp hc with hzero | hdigit
  · rw [(List.mem_replicate.mp hzero).2]
    decide
  · exact Json.isDigit_of_mem_toDigits hdigit

theorem natOfDigits_zeros (k : Nat) : natOfDigits (List.replicate k '0') = 0 := by
  induction k with
  | zero => rfl
  | succ k ih =>
    rw [List.replicate_succ', natOfDigits_snoc, ih]
    rfl

theorem natOfDigits_padded (width n : Nat) : natOfDigits (Moment.padded width n) = n := by
  simp only [Moment.padded]
  rw [natOfDigits_append, natOfDigits_zeros, Nat.zero_mul, Nat.zero_add, Json.natOfDigits_toDigits]

theorem length_padded {width n : Nat} (hwidth : 0 < width) (h : n < 10 ^ width) :
    (Moment.padded width n).length = width := by
  have hlength := Nat.toDigits_length 10 n width hwidth h
  simp only [Moment.padded, List.length_append, List.length_replicate]
  omega

/-- A number that the width is enough for is a run of that many digits. -/
theorem digits_padded {width n : Nat} (hwidth : 0 < width) (h : n < 10 ^ width) :
    Digits width width n (Moment.padded width n) := by
  have hlength := length_padded hwidth h
  exact ⟨by omega, by omega, isDigit_padded, natOfDigits_padded width n⟩

/-- The digits of a number are at least one. -/
theorem digits_padded_long (width n : Nat) :
    Digits 1 (Moment.padded width n).length n (Moment.padded width n) := by
  refine ⟨?_, Nat.le_refl _, isDigit_padded, natOfDigits_padded width n⟩
  exact List.length_pos_iff.mpr (List.append_ne_nil_of_right_ne_nil _ Nat.toDigits_ne_nil)

/-- A year with its sign, if it has one, is read as a year. -/
theorem writesYear_renderYear (y : Int) : WritesYear y (Moment.renderYear y) := by
  unfold Moment.renderYear
  split
  · rename_i hrange
    have hdigits : Digits 4 4 y.toNat (Moment.padded 4 y.toNat) :=
      digits_padded (by decide) (by omega)
    have hyear := hdigits.writesYear
    rwa [Int.toNat_of_nonneg hrange.1] at hyear
  · split
    · have hyear := WritesYear.minus .nil (digits_padded_long 4 y.natAbs)
      rwa [show -(y.natAbs : Int) = y by omega] at hyear
    · have hyear := WritesYear.plus .nil (digits_padded_long 4 y.natAbs)
      rwa [show (y.natAbs : Int) = y by omega] at hyear

/-! ## Rendered moments -/

theorem Zoned.starts_digit {s : Stamp} {cs : List Char} (h : Zoned s cs) :
    ∃ c rest, cs = c :: rest ∧ c.isDigit = true := by
  obtain @⟨y, mo, d, h, mi, sec, o, ds, year, month, day, hour, minute, second, fraction, offset, c,
    hyear, -, -, -, -, -, -, -, -⟩ := h
  cases year with
  | nil => exact absurd rfl hyear.ne_nil
  | cons c year => exact ⟨c, _, rfl, hyear.isDigit c List.mem_cons_self⟩

namespace Moment

/-- One for a leap second. -/
def leap (m : Moment) : Nat := if 1000000000 ≤ m.nanos then 1 else 0

/-- Milliseconds on top of the whole seconds. -/
def millisecond (m : Moment) : Nat := (m.nanos - m.leap * 1000000000) / 1000000

/-- What a moment says when it is rendered. -/
def stamp (m : Moment) : Stamp where
  year := m.date.year
  month := m.date.month
  day := m.date.day
  hour := m.second / 3600
  minute := m.second / 60 % 60
  second := m.second % 60 + m.leap
  fraction := padded 3 m.millisecond
  offset := 0

/-- The moment cut to milliseconds. -/
def toMillis (m : Moment) : Moment := { m with nanos := m.nanos / 1000000 * 1000000 }

variable {m : Moment}

theorem toList_render (m : Moment) : m.render.toList =
    renderYear m.date.year ++ '-' :: (padded 2 m.date.month ++ '-' :: (padded 2 m.date.day ++
      'T' :: (padded 2 (m.second / 3600) ++ ':' :: (padded 2 (m.second / 60 % 60) ++
        ':' :: (padded 2 (m.second % 60 + m.leap) ++
          ('.' :: padded 3 m.millisecond ++ ['Z'])))))) := by
  have hparts : m.render = String.ofList
      (renderYear m.date.year ++ '-' :: padded 2 m.date.month ++ '-' :: padded 2 m.date.day ++
        'T' :: padded 2 (m.second / 3600) ++ ':' :: padded 2 (m.second / 60 % 60) ++
        ':' :: padded 2 (m.second % 60 + m.leap) ++ '.' :: padded 3 m.millisecond ++ ['Z']) := by
    unfold render millisecond leap
    rfl
  -- for any parts, so that none of them is worked out
  have hassoc (year month day hour minute second fraction : List Char) :
      year ++ '-' :: month ++ '-' :: day ++ 'T' :: hour ++ ':' :: minute ++ ':' :: second ++
        '.' :: fraction ++ ['Z'] =
      year ++ '-' :: (month ++ '-' :: (day ++ 'T' :: (hour ++ ':' :: (minute ++ ':' :: (second ++
        ('.' :: fraction ++ ['Z'])))))) := by
    simp only [List.append_assoc, List.cons_append]
  rw [hparts, String.toList_ofList, hassoc]

@[simp] theorem toMillis_date (m : Moment) : m.toMillis.date = m.date := rfl

@[simp] theorem toMillis_second (m : Moment) : m.toMillis.second = m.second := rfl

theorem leap_toMillis (m : Moment) : m.toMillis.leap = m.leap := by
  have hiff : 1000000000 ≤ m.toMillis.nanos ↔ 1000000000 ≤ m.nanos := by
    show 1000000000 ≤ m.nanos / 1000000 * 1000000 ↔ _
    omega
  simp only [leap, hiff]

theorem millisecond_toMillis (m : Moment) : m.toMillis.millisecond = m.millisecond := by
  have hnanos : m.toMillis.nanos = m.nanos / 1000000 * 1000000 := rfl
  rw [millisecond, millisecond, leap_toMillis, hnanos]
  omega

/-- The milliseconds are all that is rendered of the nanoseconds. -/
theorem render_toMillis (m : Moment) : m.toMillis.render = m.render := by
  refine String.toList_inj.mp ?_
  rw [toList_render, toList_render, leap_toMillis, millisecond_toMillis, toMillis_date,
    toMillis_second]

namespace Valid

theorem leap_cases (h : m.Valid) :
    m.leap = 0 ∧ m.nanos < 1000000000 ∨
      m.leap = 1 ∧ 1000000000 ≤ m.nanos ∧ m.second % 60 = 59 := by
  unfold Moment.leap
  split
  · rename_i hleap
    exact .inr ⟨rfl, hleap, h.leap hleap⟩
  · exact .inl ⟨rfl, by omega⟩

theorem millisecond_lt (h : m.Valid) : m.millisecond < 1000 := by
  have hnanos := h.nanos_lt
  unfold millisecond
  rcases h.leap_cases with ⟨hleap, hlt⟩ | ⟨hleap, hge, -⟩
  · rw [hleap]
    omega
  · rw [hleap]
    omega

/-- The milliseconds, with those of a leap second. -/
theorem nanos_div (h : m.Valid) : m.nanos / 1000000 = m.leap * 1000 + m.millisecond := by
  unfold millisecond
  rcases h.leap_cases with ⟨hleap, -⟩ | ⟨hleap, hge, -⟩
  · rw [hleap]
    omega
  · rw [hleap]
    omega

theorem digits_month (h : m.Valid) : Digits 2 2 m.date.month (padded 2 m.date.month) := by
  obtain ⟨-, hmonth, -, -⟩ := h.date
  exact digits_padded (by decide) (by omega)

theorem digits_day (h : m.Valid) : Digits 2 2 m.date.day (padded 2 m.date.day) := by
  obtain ⟨-, -, -, hday⟩ := h.date
  have hmonth := daysInMonth_le m.date.year m.date.month
  exact digits_padded (by decide) (by omega)

theorem digits_hour (h : m.Valid) : Digits 2 2 (m.second / 3600) (padded 2 (m.second / 3600)) := by
  have hsecond := h.second_lt
  exact digits_padded (by decide) (by omega)

theorem digits_minute (m : Moment) :
    Digits 2 2 (m.second / 60 % 60) (padded 2 (m.second / 60 % 60)) :=
  digits_padded (by decide) (by omega)

theorem digits_second (h : m.Valid) :
    Digits 2 2 (m.second % 60 + m.leap) (padded 2 (m.second % 60 + m.leap)) := by
  have hleap : m.leap ≤ 1 := by
    rcases h.leap_cases with ⟨hleap, -⟩ | ⟨hleap, -⟩ <;> omega
  exact digits_padded (by decide) (by omega)

theorem digits_millisecond (h : m.Valid) : Digits 3 3 m.millisecond (padded 3 m.millisecond) :=
  digits_padded (by decide) h.millisecond_lt

theorem writesFraction (h : m.Valid) :
    WritesFraction (padded 3 m.millisecond) ('.' :: padded 3 m.millisecond) :=
  .digits h.digits_millisecond.ne_nil h.digits_millisecond.isDigit

/-- Whatever the year, a rendered moment is a date and a time with seconds, and a `Z`. -/
theorem thenSeconds_render (h : m.Valid) : ThenSeconds m.stamp ['Z'] m.render.toList := by
  have hdate := WritesDate.mk (writesYear_renderYear m.date.year) h.digits_month.writesSmall
    h.digits_day.writesSmall
  have hminutes := ThenMinutes.mk (c := 'T') hdate rfl h.digits_hour.writesSmall
    (digits_minute m).writesSmall
    (.colon (padded 2 (m.second % 60 + m.leap) ++ ('.' :: padded 3 m.millisecond ++ ['Z'])))
  have hseconds := ThenSeconds.mk hminutes h.digits_second.writesSmall h.writesFraction
    (WritesOffset.zulu (.inl rfl)).endsSecond
  have hassoc (year month day rest : List Char) :
      year ++ '-' :: (month ++ '-' :: day) ++ rest =
        year ++ '-' :: (month ++ '-' :: (day ++ rest)) := by
    simp
  rw [hassoc, ← toList_render] at hseconds
  exact hseconds

/-- With a year of four digits it is a time with an offset. -/
theorem zoned_render (h : m.Valid) (hyear : 0 ≤ m.date.year ∧ m.date.year ≤ 9999) :
    Zoned m.stamp m.render.toList := by
  have hdigits : Digits 4 4 m.date.year.toNat (padded 4 m.date.year.toNat) :=
    digits_padded (by decide) (by omega)
  have hzoned := Zoned.mk hdigits h.digits_month h.digits_day (.inl rfl) h.digits_hour
    (digits_minute m) h.digits_second h.writesFraction (.zulu (.inl rfl))
  have hrender : renderYear m.date.year = padded 4 m.date.year.toNat := if_pos hyear
  rw [← hrender, ← toList_render, Int.toNat_of_nonneg hyear.1] at hzoned
  exact hzoned

theorem valid_stamp (h : m.Valid) (hyear : 0 ≤ m.date.year ∧ m.date.year ≤ 9999) :
    m.stamp.Valid := by
  obtain ⟨hlow, hhigh⟩ := hyear
  have hsecond := h.second_lt
  refine ⟨?_, ?_, h.date, ?_, ?_, ?_⟩
  · exact Int.le_trans (by decide) hlow
  · exact Int.le_trans hhigh (by decide)
  · show m.second / 3600 ≤ 23
    omega
  · show m.second / 60 % 60 ≤ 59
    omega
  · show m.second % 60 + m.leap ≤ 60
    rcases h.leap_cases with ⟨hleap, -⟩ | ⟨hleap, -⟩ <;> omega

theorem nanosOf_stamp (h : m.Valid) :
    nanosOf (padded 3 m.millisecond) = m.millisecond * 1000000 := by
  have hlength := length_padded (by decide : 0 < 3) h.millisecond_lt
  rw [nanosOf_short (by omega), natOfDigits_padded, hlength]
  norm_num

/-- What is rendered is the moment, but for the part of a millisecond. -/
theorem utc_stamp (h : m.Valid) : m.stamp.utc = m.toMillis := by
  have hsecond := h.second_lt
  have hnanos := h.nanos_div
  have hclock : m.stamp.clock = m.toMillis := by
    have hparts : m.stamp.clock = if m.second % 60 + m.leap = 60 then
        ⟨m.date, m.second / 3600 * 3600 + m.second / 60 % 60 * 60 + 59,
          nanosOf (padded 3 m.millisecond) + 1000000000⟩
      else ⟨m.date, m.second / 3600 * 3600 + m.second / 60 % 60 * 60 + (m.second % 60 + m.leap),
        nanosOf (padded 3 m.millisecond)⟩ := rfl
    rw [hparts, h.nanosOf_stamp, toMillis, hnanos]
    rcases h.leap_cases with ⟨hleap, -⟩ | ⟨hleap, -, hlast⟩
    · rw [hleap, if_neg (by omega), Moment.mk.injEq]
      exact ⟨rfl, by omega, by omega⟩
    · rw [hleap, if_pos (by omega), Moment.mk.injEq]
      exact ⟨rfl, by omega, by omega⟩
  have hutc : m.stamp.utc = m.stamp.clock.back 0 := rfl
  rw [hutc, hclock]
  exact back_zero hsecond

/-- A rendered moment with a year of four digits is read back, cut to milliseconds. -/
theorem moment?_render (h : m.Valid) (hyear : 0 ≤ m.date.year ∧ m.date.year ≤ 9999) :
    moment? m.render = some m.toMillis :=
  moment?_eq_some_iff.mpr
    ⟨m.stamp, .zoned (h.zoned_render hyear), h.valid_stamp hyear, h.utc_stamp.symm⟩

/-- What is rendered is the moment, cut to milliseconds. -/
theorem instant_stamp (h : m.Valid) : m.stamp.instant = m.millis / 1000 := by
  have hlength := length_padded (by decide : 0 < 3) h.millisecond_lt
  have hparts : m.stamp.instant =
      (m.date.dayNumber * 86400 + (m.second / 3600 : Nat) * 3600 + (m.second / 60 % 60 : Nat) * 60 +
        (m.second % 60 + m.leap : Nat) - 0 : Int) +
      (natOfDigits (padded 3 m.millisecond) / 10 ^ (padded 3 m.millisecond).length : ℚ) := rfl
  have hseconds : m.date.dayNumber * 86400 + (m.second / 3600 : Nat) * 3600 +
      (m.second / 60 % 60 : Nat) * 60 + (m.second % 60 + m.leap : Nat) - 0 =
      m.date.dayNumber * 86400 + m.second + m.leap := by omega
  rw [hparts, hseconds, hlength, natOfDigits_padded, millis, h.nanos_div]
  push_cast
  ring

/-- A sign before the year and an offset are not in one form. -/
theorem not_denotes_render (h : m.Valid) (hyear : ¬ (0 ≤ m.date.year ∧ m.date.year ≤ 9999))
    (s : Stamp) : ¬ Denotes s m.render.toList := by
  rintro (hzoned | htimed | hdated)
  · obtain ⟨c, rest, hcs, hc⟩ := hzoned.starts_digit
    have hsign : renderYear m.date.year =
      (if m.date.year < 0 then '-' else '+') :: padded 4 m.date.year.natAbs := if_neg hyear
    rw [toList_render, hsign, List.cons_append] at hcs
    obtain ⟨rfl, -⟩ := List.cons.inj hcs
    split at hc
    · exact absurd hc (by decide)
    · exact absurd hc (by decide)
  · exact absurd (htimed.thenSeconds.unique h.thenSeconds_render).2 (by simp)
  · exact h.thenSeconds_render.not_dated hdated

theorem not_toTheMinute_render (h : m.Valid) (s : Stamp) : ¬ ToTheMinute s m.render.toList :=
  fun hminute => h.thenSeconds_render.not_minutes hminute.thenMinutes

/-- A rendered moment passes as a date just if its year has four digits. -/
theorem isDateText_render (h : m.Valid) :
    isDateText m.render = true ↔ 0 ≤ m.date.year ∧ m.date.year ≤ 9999 := by
  rw [isDateText_iff]
  constructor
  · rintro ⟨s, -, hs | hs⟩
    · by_contra hyear
      exact h.not_denotes_render hyear s hs
    · exact absurd hs (h.not_toTheMinute_render s)
  · intro hyear
    exact ⟨m.stamp, h.valid_stamp hyear, .inl (.zoned (h.zoned_render hyear))⟩

end Valid

end Moment

end RequestValidation.Calendar
