/-!
# Calendar dates

Dates of the proleptic Gregorian calendar with the year zero and negative years. `tomorrow` and
`yesterday` step from one date to the next, so a shift of a clock by less than a day is a step or
none.

Results:
* `daysInMonth_pos`, `daysInMonth_le`: a month has between 28 and 31 days.
* `tomorrow_valid`, `yesterday_valid`: a step from a date of the calendar leads to one.
-/
namespace RequestValidation.Calendar

structure Date where
  year : Int
  month : Nat
  day : Nat
deriving DecidableEq, Repr

def isLeapYear (year : Int) : Bool :=
  year % 4 == 0 && (year % 100 != 0 || year % 400 == 0)

def daysInMonth (year : Int) (month : Nat) : Nat :=
  if month = 2 then (if isLeapYear year then 29 else 28)
  else if month = 4 ∨ month = 6 ∨ month = 9 ∨ month = 11 then 30
  else 31

theorem daysInMonth_pos (year : Int) (month : Nat) : 28 ≤ daysInMonth year month := by
  unfold daysInMonth; split
  · split <;> omega
  · split <;> omega

theorem daysInMonth_le (year : Int) (month : Nat) : daysInMonth year month ≤ 31 := by
  unfold daysInMonth; split
  · split <;> omega
  · split <;> omega

namespace Date

/-- The first and the last year that dates are kept for. -/
def minYear : Int := -262143

def maxYear : Int := 262142

/-- A month of the year and a day of the month. -/
def Valid (d : Date) : Prop :=
  1 ≤ d.month ∧ d.month ≤ 12 ∧ 1 ≤ d.day ∧ d.day ≤ daysInMonth d.year d.month

instance (d : Date) : Decidable d.Valid := inferInstanceAs (Decidable (_ ∧ _))

/-- The date with these numbers, if the calendar has it. -/
def of? (year : Int) (month day : Nat) : Option Date :=
  let d : Date := ⟨year, month, day⟩
  if minYear ≤ year ∧ year ≤ maxYear ∧ d.Valid then some d else none

def tomorrow (d : Date) : Date :=
  if d.day < daysInMonth d.year d.month then { d with day := d.day + 1 }
  else if d.month < 12 then ⟨d.year, d.month + 1, 1⟩
  else ⟨d.year + 1, 1, 1⟩

def yesterday (d : Date) : Date :=
  if 1 < d.day then { d with day := d.day - 1 }
  else if 1 < d.month then ⟨d.year, d.month - 1, daysInMonth d.year (d.month - 1)⟩
  else ⟨d.year - 1, 12, 31⟩

theorem tomorrow_valid {d : Date} (h : d.Valid) : d.tomorrow.Valid := by
  obtain ⟨h1, h2, h3, h4⟩ := h
  unfold tomorrow
  split
  · exact ⟨h1, h2, by simp, by simpa using Nat.succ_le_of_lt ‹_›⟩
  · split
    · refine ⟨by simp, by simp; omega, by simp, ?_⟩
      have := daysInMonth_pos d.year (d.month + 1)
      simp; omega
    · refine ⟨by simp, by simp, by simp, ?_⟩
      simp [daysInMonth]

theorem yesterday_valid {d : Date} (h : d.Valid) : d.yesterday.Valid := by
  obtain ⟨h1, h2, h3, h4⟩ := h
  unfold yesterday
  split
  · exact ⟨h1, h2, by simp; omega, by simp; omega⟩
  · split
    · have := daysInMonth_pos d.year (d.month - 1)
      exact ⟨by simp; omega, by simp; omega, by simp; omega, by simp⟩
    · exact ⟨by simp, by simp, by simp, by simp [daysInMonth]⟩

end Date

end RequestValidation.Calendar
