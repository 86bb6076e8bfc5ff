import RequestValidation.Proofs.Calendar.Written
/-!
# The forms of a date

A date alone, a date with hours and minutes, with seconds, and with seconds and an offset from UTC.
Each reader takes exactly the texts of its form in which the numbers are those of the calendar and
the clock. No text has two forms, so the order in which the readers are tried decides nothing.

Results:
* `readWithOffset?_eq_some_iff`, `readSeconds?_eq_some_iff`, `readMinutes?_eq_some_iff`,
  `readDate?_eq_some_iff`: which texts the readers take, and as which moments.
* `Timed.not_zoned`, `Dated.not_timed`, `ToTheMinute.not_dated` and their like: a text has one form.
* `Denotes.unique`: a text says one thing.
* `moment?_eq_some_iff`: which texts stand for a moment, and for which one.
* `isDateText_iff`: which texts pass as dates.
-/
namespace RequestValidation.Calendar

/-- What a date or a time says, number by number. -/
structure Stamp where
  year : Int
  month : Nat
  day : Nat
  hour : Nat
  minute : Nat
  second : Nat
  /-- The digits behind the seconds. -/
  fraction : List Char
  /-- Seconds east of UTC. -/
  offset : Int

namespace Stamp

def date (s : Stamp) : Date := ⟨s.year, s.month, s.day⟩

/-- A date of the calendar and a time of the clock, the sixtieth second included. -/
structure Valid (s : Stamp) : Prop where
  minYear_le : Date.minYear ≤ s.year
  le_maxYear : s.year ≤ Date.maxYear
  date : s.date.Valid
  hour_le : s.hour ≤ 23
  minute_le : s.minute ≤ 59
  second_le : s.second ≤ 60

/-- What the clock shows, with a sixtieth second on top of the one before. -/
def clock (s : Stamp) : Moment :=
  if s.second = 60 then
    ⟨s.date, s.hour * 3600 + s.minute * 60 + 59, nanosOf s.fraction + 1000000000⟩
  else ⟨s.date, s.hour * 3600 + s.minute * 60 + s.second, nanosOf s.fraction⟩

/-- The same moment in UTC. -/
def utc (s : Stamp) : Moment := s.clock.back s.offset

/-- The moment of a stamp that is valid. -/
def moment? (s : Stamp) : Option Moment := do
  let date ← Date.of? s.year s.month s.day
  let m ← Moment.of? date s.hour s.minute s.second (nanosOf s.fraction)
  some (m.back s.offset)

end Stamp

theorem Date.of?_eq_some_iff {y : Int} {m d : Nat} {date : Date} :
    Date.of? y m d = some date ↔
      Date.minYear ≤ y ∧ y ≤ Date.maxYear ∧ (⟨y, m, d⟩ : Date).Valid ∧ date = ⟨y, m, d⟩ := by
  simp only [Date.of?, Option.ite_none_right_eq_some, Option.some.injEq, and_assoc]
  constructor
  · rintro ⟨hmin, hmax, hvalid, rfl⟩
    exact ⟨hmin, hmax, hvalid, rfl⟩
  · rintro ⟨hmin, hmax, hvalid, rfl⟩
    exact ⟨hmin, hmax, hvalid, rfl⟩

theorem Moment.of?_eq_some_iff {date : Date} {h mi sec n : Nat} {m : Moment} :
    Moment.of? date h mi sec n = some m ↔ h ≤ 23 ∧ mi ≤ 59 ∧ sec ≤ 60 ∧
      m = if sec = 60 then ⟨date, h * 3600 + mi * 60 + 59, n + 1000000000⟩
        else ⟨date, h * 3600 + mi * 60 + sec, n⟩ := by
  unfold Moment.of?
  by_cases hbounds : 23 < h ∨ 59 < mi ∨ 60 < sec
  · rw [if_pos hbounds]
    constructor
    · nofun
    · rintro ⟨hh, hmi, hsec, -⟩
      omega
  · rw [if_neg hbounds]
    constructor
    · intro hm
      refine ⟨by omega, by omega, by omega, ?_⟩
      split <;> rename_i hsec
      · rw [if_pos hsec] at hm
        exact (Option.some.inj hm).symm
      · rw [if_neg hsec] at hm
        exact (Option.some.inj hm).symm
    · rintro ⟨-, -, -, rfl⟩
      split <;> rfl

theorem Stamp.moment?_eq_some_iff {s : Stamp} {m : Moment} :
    s.moment? = some m ↔ s.Valid ∧ m = s.utc := by
  simp only [Stamp.moment?, Option.bind_eq_bind, Option.bind_eq_some_iff, Date.of?_eq_some_iff,
    Moment.of?_eq_some_iff, Option.some.injEq]
  constructor
  · rintro ⟨date, ⟨hmin, hmax, hdate, rfl⟩, m', ⟨hh, hmi, hsec, rfl⟩, rfl⟩
    exact ⟨⟨hmin, hmax, hdate, hh, hmi, hsec⟩, rfl⟩
  · rintro ⟨⟨hmin, hmax, hdate, hh, hmi, hsec⟩, rfl⟩
    exact ⟨_, ⟨hmin, hmax, hdate, rfl⟩, _, ⟨hh, hmi, hsec, rfl⟩, rfl⟩

/-- A clock in UTC is not put back. -/
theorem Moment.back_zero {m : Moment} (h : m.second < 86400) : m.back 0 = m := by
  unfold Moment.back
  rw [Int.sub_zero, if_neg (by omega), if_neg (by omega), Int.toNat_natCast]

theorem Stamp.moment?_of_offset {s : Stamp} (h : s.offset = 0) :
    s.moment? = (Date.of? s.year s.month s.day).bind fun date =>
      Moment.of? date s.hour s.minute s.second (nanosOf s.fraction) := by
  rw [Stamp.moment?, h]
  refine Option.bind_congr fun date _ => ?_
  cases hm : Moment.of? date s.hour s.minute s.second (nanosOf s.fraction) with
  | none => rfl
  | some m =>
    obtain ⟨hh, hmi, hsec, rfl⟩ := Moment.of?_eq_some_iff.mp hm
    refine congrArg some (Moment.back_zero ?_)
    split
    · show s.hour * 3600 + s.minute * 60 + 59 < 86400
      omega
    · show s.hour * 3600 + s.minute * 60 + s.second < 86400
      omega

/-! ## The grammar -/

/-- A year, a month and a day with hyphens between. -/
inductive WritesDate : Int → Nat → Nat → List Char → Prop
  | mk {y : Int} {m d : Nat} {year month day : List Char} (hyear : WritesYear y year)
    (hmonth : WritesSmall m month) (hday : WritesSmall d day) :
    WritesDate y m d (year ++ '-' :: (month ++ '-' :: day))

/-- A date, a time with seconds and an offset, every number with all its digits. -/
inductive Zoned : Stamp → List Char → Prop
  | mk {y mo d h mi sec : Nat} {o : Int} {ds year month day hour minute second fraction offset :
    List Char} {c : Char} (hyear : Digits 4 4 y year) (hmonth : Digits 2 2 mo month)
    (hday : Digits 2 2 d day) (hc : c = 'T' ∨ c = 't' ∨ c = ' ') (hhour : Digits 2 2 h hour)
    (hminute : Digits 2 2 mi minute) (hsecond : Digits 2 2 sec second)
    (hfraction : WritesFraction ds fraction) (hoffset : WritesOffset o offset) :
    Zoned ⟨y, mo, d, h, mi, sec, ds, o⟩
      (year ++ '-' :: (month ++ '-' :: (day ++ c :: (hour ++ ':' :: (minute ++
        ':' :: (second ++ (fraction ++ offset)))))))

/-- A date and a time with seconds. -/
inductive Timed : Stamp → List Char → Prop
  | mk {y : Int} {mo d h mi sec : Nat} {ds date hour minute second fraction : List Char}
    (hdate : WritesDate y mo d date) (hhour : WritesSmall h hour) (hminute : WritesSmall mi minute)
    (hsecond : WritesSmall sec second) (hfraction : WritesFraction ds fraction) :
    Timed ⟨y, mo, d, h, mi, sec, ds, 0⟩
      (date ++ 'T' :: (hour ++ ':' :: (minute ++ ':' :: (second ++ fraction))))

/-- A date and a time of hours and minutes. -/
inductive ToTheMinute : Stamp → List Char → Prop
  | mk {y : Int} {mo d h mi : Nat} {date hour minute : List Char}
    (hdate : WritesDate y mo d date) (hhour : WritesSmall h hour)
    (hminute : WritesSmall mi minute) :
    ToTheMinute ⟨y, mo, d, h, mi, 0, [], 0⟩ (date ++ 'T' :: (hour ++ ':' :: minute))

/-- A date alone. -/
inductive Dated : Stamp → List Char → Prop
  | mk {y : Int} {mo d : Nat} {date : List Char} (hdate : WritesDate y mo d date) :
    Dated ⟨y, mo, d, 0, 0, 0, [], 0⟩ date

/-! ## The parts are read back -/

theorem EndsDigits.hyphen (rest : List Char) : EndsDigits ('-' :: rest) := .cons (by decide) rest

theorem EndsDigits.colon (rest : List Char) : EndsDigits (':' :: rest) := .cons (by decide) rest

theorem EndsDigits.time (rest : List Char) : EndsDigits ('T' :: rest) := .cons (by decide) rest

theorem EndsDigits.fraction {ds cs : List Char} (h : WritesFraction ds cs) : EndsDigits cs := by
  have hends := h.endsDigits EndsDigits.nil
  rwa [List.append_nil] at hends

theorem takeFraction?_whole {ds cs : List Char} (h : WritesFraction ds cs) :
    takeFraction? cs = some (nanosOf ds, []) := by
  have hread := takeFraction?_append h .nil
  rwa [List.append_nil] at hread

theorem takeOffset?_whole {o : Int} {cs : List Char} (h : WritesOffset o cs) :
    takeOffset? cs = some (o, []) := by
  have hread := takeOffset?_append h []
  rwa [List.append_nil] at hread

namespace Moment

theorem takeSmall?_whole {n : Nat} {cs : List Char} (h : WritesSmall n cs) :
    takeSmall? cs = some (n, []) := by
  have hread := takeSmall?_append h EndsDigits.nil
  rwa [List.append_nil] at hread

theorem takeDate?_append {y : Int} {m d : Nat} {cs rest : List Char} (h : WritesDate y m d cs)
    (hrest : EndsDigits rest) : takeDate? (cs ++ rest) = some ((y, m, d), rest) := by
  obtain ⟨hyear, hmonth, hday⟩ := h
  simp only [takeDate?, List.append_assoc, List.cons_append, Option.bind_eq_bind, Option.bind_some,
    takeYear?_append hyear (.hyphen _), takeSmall?_append hmonth (.hyphen _),
    takeSmall?_append hday hrest, takeChar?_cons]

theorem takeDate?_whole {y : Int} {m d : Nat} {cs : List Char} (h : WritesDate y m d cs) :
    takeDate? cs = some ((y, m, d), []) := by
  have hread := takeDate?_append h EndsDigits.nil
  rwa [List.append_nil] at hread

theorem exists_of_takeDate? {y : Int} {m d : Nat} {cs rest : List Char}
    (h : takeDate? cs = some ((y, m, d), rest)) :
    ∃ front, cs = front ++ rest ∧ WritesDate y m d front := by
  simp only [takeDate?, Option.bind_eq_bind, Option.bind_eq_some_iff, Option.some.injEq,
    Prod.mk.injEq, Prod.exists] at h
  obtain ⟨y', afterYear, hyears, afterHyphen, hhyphen, m', afterMonth, hmonths, afterHyphen',
    hhyphen', d', afterDay, hdays, ⟨rfl, rfl, rfl⟩, rfl⟩ := h
  obtain ⟨year, rfl, hyear⟩ := exists_of_takeYear? hyears
  obtain rfl := eq_cons_of_takeChar? hhyphen
  obtain ⟨month, rfl, hmonth⟩ := exists_of_takeSmall? hmonths
  obtain rfl := eq_cons_of_takeChar? hhyphen'
  obtain ⟨day, rfl, hday⟩ := exists_of_takeSmall? hdays
  exact ⟨year ++ '-' :: (month ++ '-' :: day), by simp, .mk hyear hmonth hday⟩

/-! ## The readers -/

theorem eq_nil_of_complete? {α : Type} {a b : α} {cs : List Char} (h : complete? a cs = some b) :
    cs = [] := by
  cases cs with
  | nil => rfl
  | cons c cs => cases h

theorem exists_of_takeSeparator? {cs rest : List Char}
    (h : (takeChar? 'T' cs).or ((takeChar? 't' cs).or (takeChar? ' ' cs)) = some rest) :
    ∃ c, cs = c :: rest ∧ (c = 'T' ∨ c = 't' ∨ c = ' ') := by
  rcases Option.or_eq_some_iff.mp h with hupper | ⟨-, h⟩
  · exact ⟨_, eq_cons_of_takeChar? hupper, .inl rfl⟩
  · rcases Option.or_eq_some_iff.mp h with hlower | ⟨-, hblank⟩
    · exact ⟨_, eq_cons_of_takeChar? hlower, .inr (.inl rfl)⟩
    · exact ⟨_, eq_cons_of_takeChar? hblank, .inr (.inr rfl)⟩

theorem nanosOf_nil : nanosOf [] = 0 := Nat.zero_mul _

/-- A reader goes on with what a part was read as. -/
theorem bind_of_eq_some {α β : Type} {o : Option α} {a : α} (h : o = some a) {f : α → Option β} :
    (o >>= f) = f a := by
  rw [h]
  rfl

theorem readWithOffset?_of_zoned {s : Stamp} {cs : List Char} (h : Zoned s cs) :
    readWithOffset? cs = s.moment? := by
  obtain @⟨y, mo, d, h, mi, sec, o, ds, year, month, day, hour, minute, second, fraction, offset, c,
    hyear, hmonth, hday, hc, hhour, hminute, hsecond, hfraction, hoffset⟩ := h
  have hseparator (rest : List Char) : (takeChar? 'T' (c :: rest)).or
      ((takeChar? 't' (c :: rest)).or (takeChar? ' ' (c :: rest))) = some rest := by
    rcases hc with rfl | rfl | rfl <;> rfl
  unfold readWithOffset?
  refine (bind_of_eq_some (takeDigits?_fixed hyear _)).trans ?_
  refine (bind_of_eq_some (takeChar?_cons _ _)).trans ?_
  refine (bind_of_eq_some (takeDigits?_fixed hmonth _)).trans ?_
  refine (bind_of_eq_some (takeChar?_cons _ _)).trans ?_
  refine (bind_of_eq_some (takeDigits?_fixed hday _)).trans ?_
  refine (bind_of_eq_some (hseparator _)).trans ?_
  refine (bind_of_eq_some (takeDigits?_fixed hhour _)).trans ?_
  refine (bind_of_eq_some (takeChar?_cons _ _)).trans ?_
  refine (bind_of_eq_some (takeDigits?_fixed hminute _)).trans ?_
  refine (bind_of_eq_some (takeChar?_cons _ _)).trans ?_
  refine (bind_of_eq_some (takeDigits?_fixed hsecond _)).trans ?_
  refine (bind_of_eq_some (takeFraction?_append hfraction hoffset.endsSecond)).trans ?_
  exact bind_of_eq_some (takeOffset?_whole hoffset)

theorem readSeconds?_of_timed {s : Stamp} {cs : List Char} (h : Timed s cs) :
    readSeconds? cs = s.moment? := by
  obtain ⟨hdate, hhour, hminute, hsecond, hfraction⟩ := h
  rw [Stamp.moment?_of_offset rfl]
  unfold readSeconds?
  refine (bind_of_eq_some (takeDate?_append hdate (.time _))).trans ?_
  refine (bind_of_eq_some (takeChar?_cons _ _)).trans ?_
  refine (bind_of_eq_some (takeSmall?_append hhour (.colon _))).trans ?_
  refine (bind_of_eq_some (takeChar?_cons _ _)).trans ?_
  refine (bind_of_eq_some (takeSmall?_append hminute (.colon _))).trans ?_
  refine (bind_of_eq_some (takeChar?_cons _ _)).trans ?_
  refine (bind_of_eq_some (takeSmall?_append hsecond (.fraction hfraction))).trans ?_
  refine (bind_of_eq_some (takeFraction?_whole hfraction)).trans ?_
  exact Option.bind_congr fun date _ => Option.bind_fun_some _

theorem readMinutes?_of_toTheMinute {s : Stamp} {cs : List Char} (h : ToTheMinute s cs) :
    readMinutes? cs = s.moment? := by
  obtain ⟨hdate, hhour, hminute⟩ := h
  rw [Stamp.moment?_of_offset rfl]
  simp only [nanosOf_nil]
  unfold readMinutes?
  refine (bind_of_eq_some (takeDate?_append hdate (.time _))).trans ?_
  refine (bind_of_eq_some (takeChar?_cons _ _)).trans ?_
  refine (bind_of_eq_some (takeSmall?_append hhour (.colon _))).trans ?_
  refine (bind_of_eq_some (takeChar?_cons _ _)).trans ?_
  refine (bind_of_eq_some (takeSmall?_whole hminute)).trans ?_
  exact Option.bind_congr fun date _ => Option.bind_fun_some _

theorem readDate?_of_dated {s : Stamp} {cs : List Char} (h : Dated s cs) :
    readDate? cs = s.moment? := by
  obtain ⟨hdate⟩ := h
  rw [Stamp.moment?_of_offset rfl]
  simp only [nanosOf_nil]
  unfold readDate?
  refine (bind_of_eq_some (takeDate?_whole hdate)).trans ?_
  rfl

theorem exists_zoned {cs : List Char} {m : Moment} (h : readWithOffset? cs = some m) :
    ∃ s, Zoned s cs := by
  unfold readWithOffset? at h
  obtain ⟨⟨y, _⟩, hyears, h⟩ := Option.bind_eq_some_iff.mp h
  obtain ⟨_, hhyphen, h⟩ := Option.bind_eq_some_iff.mp h
  obtain ⟨⟨mo, _⟩, hmonths, h⟩ := Option.bind_eq_some_iff.mp h
  obtain ⟨_, hhyphen', h⟩ := Option.bind_eq_some_iff.mp h
  obtain ⟨⟨d, _⟩, hdays, h⟩ := Option.bind_eq_some_iff.mp h
  obtain ⟨_, hseparator, h⟩ := Option.bind_eq_some_iff.mp h
  obtain ⟨⟨hr, _⟩, hhours, h⟩ := Option.bind_eq_some_iff.mp h
  obtain ⟨_, hcolon, h⟩ := Option.bind_eq_some_iff.mp h
  obtain ⟨⟨mi, _⟩, hminutes, h⟩ := Option.bind_eq_some_iff.mp h
  obtain ⟨_, hcolon', h⟩ := Option.bind_eq_some_iff.mp h
  obtain ⟨⟨sec, _⟩, hseconds, h⟩ := Option.bind_eq_some_iff.mp h
  obtain ⟨⟨n, _⟩, hfractions, h⟩ := Option.bind_eq_some_iff.mp h
  obtain ⟨⟨o, _⟩, hoffsets, h⟩ := Option.bind_eq_some_iff.mp h
  obtain ⟨_, -, h⟩ := Option.bind_eq_some_iff.mp h
  obtain ⟨_, -, hcomplete⟩ := Option.bind_eq_some_iff.mp h
  -- from the back, since each part is read of the rest of the one before
  obtain rfl := eq_nil_of_complete? hcomplete
  obtain ⟨offset, rfl, hoffset⟩ := exists_of_takeOffset? hoffsets
  obtain ⟨ds, fraction, rfl, hfraction, -⟩ := exists_of_takeFraction? hfractions
  obtain ⟨second, rfl, hsecond⟩ := exists_of_takeDigits? hseconds
  obtain rfl := eq_cons_of_takeChar? hcolon'
  obtain ⟨minute, rfl, hminute⟩ := exists_of_takeDigits? hminutes
  obtain rfl := eq_cons_of_takeChar? hcolon
  obtain ⟨hour, rfl, hhour⟩ := exists_of_takeDigits? hhours
  obtain ⟨c, rfl, hc⟩ := exists_of_takeSeparator? hseparator
  obtain ⟨day, rfl, hday⟩ := exists_of_takeDigits? hdays
  obtain rfl := eq_cons_of_takeChar? hhyphen'
  obtain ⟨month, rfl, hmonth⟩ := exists_of_takeDigits? hmonths
  obtain rfl := eq_cons_of_takeChar? hhyphen
  obtain ⟨year, rfl, hyear⟩ := exists_of_takeDigits? hyears
  rw [List.append_nil]
  exact ⟨_, .mk hyear hmonth hday hc hhour hminute hsecond hfraction hoffset⟩

theorem exists_timed {cs : List Char} {m : Moment} (h : readSeconds? cs = some m) :
    ∃ s, Timed s cs := by
  unfold readSeconds? at h
  obtain ⟨⟨⟨y, mo, d⟩, _⟩, hdates, h⟩ := Option.bind_eq_some_iff.mp h
  obtain ⟨_, htime, h⟩ := Option.bind_eq_some_iff.mp h
  obtain ⟨⟨hr, _⟩, hhours, h⟩ := Option.bind_eq_some_iff.mp h
  obtain ⟨_, hcolon, h⟩ := Option.bind_eq_some_iff.mp h
  obtain ⟨⟨mi, _⟩, hminutes, h⟩ := Option.bind_eq_some_iff.mp h
  obtain ⟨_, hcolon', h⟩ := Option.bind_eq_some_iff.mp h
  obtain ⟨⟨sec, _⟩, hseconds, h⟩ := Option.bind_eq_some_iff.mp h
  obtain ⟨⟨n, _⟩, hfractions, h⟩ := Option.bind_eq_some_iff.mp h
  obtain ⟨_, -, h⟩ := Option.bind_eq_some_iff.mp h
  obtain ⟨_, -, hcomplete⟩ := Option.bind_eq_some_iff.mp h
  obtain rfl := eq_nil_of_complete? hcomplete
  obtain ⟨ds, fraction, rfl, hfraction, -⟩ := exists_of_takeFraction? hfractions
  obtain ⟨second, rfl, hsecond⟩ := exists_of_takeSmall? hseconds
  obtain rfl := eq_cons_of_takeChar? hcolon'
  obtain ⟨minute, rfl, hminute⟩ := exists_of_takeSmall? hminutes
  obtain rfl := eq_cons_of_takeChar? hcolon
  obtain ⟨hour, rfl, hhour⟩ := exists_of_takeSmall? hhours
  obtain rfl := eq_cons_of_takeChar? htime
  obtain ⟨date, rfl, hdate⟩ := exists_of_takeDate? hdates
  rw [List.append_nil]
  exact ⟨_, .mk hdate hhour hminute hsecond hfraction⟩

theorem exists_toTheMinute {cs : List Char} {m : Moment} (h : readMinutes? cs = some m) :
    ∃ s, ToTheMinute s cs := by
  unfold readMinutes? at h
  obtain ⟨⟨⟨y, mo, d⟩, _⟩, hdates, h⟩ := Option.bind_eq_some_iff.mp h
  obtain ⟨_, htime, h⟩ := Option.bind_eq_some_iff.mp h
  obtain ⟨⟨hr, _⟩, hhours, h⟩ := Option.bind_eq_some_iff.mp h
  obtain ⟨_, hcolon, h⟩ := Option.bind_eq_some_iff.mp h
  obtain ⟨⟨mi, _⟩, hminutes, h⟩ := Option.bind_eq_some_iff.mp h
  obtain ⟨_, -, h⟩ := Option.bind_eq_some_iff.mp h
  obtain ⟨_, -, hcomplete⟩ := Option.bind_eq_some_iff.mp h
  obtain rfl := eq_nil_of_complete? hcomplete
  obtain ⟨minute, rfl, hminute⟩ := exists_of_takeSmall? hminutes
  obtain rfl := eq_cons_of_takeChar? hcolon
  obtain ⟨hour, rfl, hhour⟩ := exists_of_takeSmall? hhours
  obtain rfl := eq_cons_of_takeChar? htime
  obtain ⟨date, rfl, hdate⟩ := exists_of_takeDate? hdates
  rw [List.append_nil]
  exact ⟨_, .mk hdate hhour hminute⟩

theorem exists_dated {cs : List Char} {m : Moment} (h : readDate? cs = some m) :
    ∃ s, Dated s cs := by
  unfold readDate? at h
  obtain ⟨⟨⟨y, mo, d⟩, _⟩, hdates, h⟩ := Option.bind_eq_some_iff.mp h
  obtain ⟨_, -, hcomplete⟩ := Option.bind_eq_some_iff.mp h
  obtain rfl := eq_nil_of_complete? hcomplete
  obtain ⟨date, rfl, hdate⟩ := exists_of_takeDate? hdates
  rw [List.append_nil]
  exact ⟨_, .mk hdate⟩

section Readers

variable (read : List Char → Option Moment) (Form : Stamp → List Char → Prop) {cs : List Char}

/-- A reader that reads its form as the stamp says, and nothing else, takes the valid stamps. -/
theorem reads_iff (hreads : ∀ {s cs}, Form s cs → read cs = s.moment?)
    (hform : ∀ {cs m}, read cs = some m → ∃ s, Form s cs) {m : Moment} :
    read cs = some m ↔ ∃ s, Form s cs ∧ s.Valid ∧ m = s.utc := by
  constructor
  · intro h
    obtain ⟨s, hs⟩ := hform h
    exact ⟨s, hs, Stamp.moment?_eq_some_iff.mp (by rw [← hreads hs, h])⟩
  · rintro ⟨s, hs, hvalid⟩
    rw [hreads hs]
    exact Stamp.moment?_eq_some_iff.mpr hvalid

theorem read_eq_none (hform : ∀ {cs m}, read cs = some m → ∃ s, Form s cs)
    (hnot : ∀ s, ¬ Form s cs) : read cs = none := by
  refine Option.eq_none_iff_forall_ne_some.mpr fun m hm => ?_
  obtain ⟨s, hs⟩ := hform hm
  exact hnot s hs

end Readers

theorem readWithOffset?_eq_some_iff {cs : List Char} {m : Moment} :
    readWithOffset? cs = some m ↔ ∃ s, Zoned s cs ∧ s.Valid ∧ m = s.utc :=
  reads_iff readWithOffset? Zoned readWithOffset?_of_zoned exists_zoned

theorem readSeconds?_eq_some_iff {cs : List Char} {m : Moment} :
    readSeconds? cs = some m ↔ ∃ s, Timed s cs ∧ s.Valid ∧ m = s.utc :=
  reads_iff readSeconds? Timed readSeconds?_of_timed exists_timed

theorem readMinutes?_eq_some_iff {cs : List Char} {m : Moment} :
    readMinutes? cs = some m ↔ ∃ s, ToTheMinute s cs ∧ s.Valid ∧ m = s.utc :=
  reads_iff readMinutes? ToTheMinute readMinutes?_of_toTheMinute exists_toTheMinute

theorem readDate?_eq_some_iff {cs : List Char} {m : Moment} :
    readDate? cs = some m ↔ ∃ s, Dated s cs ∧ s.Valid ∧ m = s.utc :=
  reads_iff readDate? Dated readDate?_of_dated exists_dated

end Moment

/-! ## A text has one form and one stamp -/

theorem WritesSmall.unique {n n' : Nat} {a a' rest rest' : List Char} (h : WritesSmall n a)
    (h' : WritesSmall n' a') (hrest : EndsDigits rest) (hrest' : EndsDigits rest')
    (heq : a ++ rest = a' ++ rest') : n = n' ∧ rest = rest' := by
  have hread := Moment.takeSmall?_append h hrest
  rw [heq, Moment.takeSmall?_append h' hrest'] at hread
  exact Prod.mk.inj (Option.some.inj hread.symm)

theorem WritesDate.unique {y y' : Int} {m m' d d' : Nat} {a a' rest rest' : List Char}
    (h : WritesDate y m d a) (h' : WritesDate y' m' d' a') (hrest : EndsDigits rest)
    (hrest' : EndsDigits rest') (heq : a ++ rest = a' ++ rest') :
    (y, m, d) = (y', m', d') ∧ rest = rest' := by
  have hread := Moment.takeDate?_append h hrest
  rw [heq, Moment.takeDate?_append h' hrest'] at hread
  exact Prod.mk.inj (Option.some.inj hread.symm)

theorem WritesOffset.unique {o o' : Int} {cs : List Char} (h : WritesOffset o cs)
    (h' : WritesOffset o' cs) : o = o' := by
  have hread := takeOffset?_whole h
  rw [takeOffset?_whole h'] at hread
  exact (Prod.mk.inj (Option.some.inj hread)).1.symm

/-- A fraction is all the digits, not only those that are kept of it. -/
theorem WritesFraction.unique {ds ds' a a' rest rest' : List Char} (h : WritesFraction ds a)
    (h' : WritesFraction ds' a') (hrest : EndsSecond rest) (hrest' : EndsSecond rest')
    (heq : a ++ rest = a' ++ rest') : ds = ds' ∧ rest = rest' := by
  have hdigits {ds rest : List Char} (hdigit : ∀ c ∈ ds, c.isDigit = true)
      (hrest : EndsDigits rest) : (ds ++ rest).takeWhile Char.isDigit = ds := by
    have hle : ds.length ≤ (ds ++ rest).length := by simp
    have hfront := takeWhile_take_append hle hdigit (.inr hrest)
    rwa [List.take_length] at hfront
  cases h with
  | none =>
    cases h' with
    | none => exact ⟨rfl, heq⟩
    | digits =>
      rw [List.nil_append] at heq
      rw [heq] at hrest
      exact absurd hrest EndsSecond.not_point
  | digits hne hdigit =>
    cases h' with
    | none =>
      rw [List.nil_append] at heq
      rw [← heq] at hrest'
      exact absurd hrest' EndsSecond.not_point
    | digits hne' hdigit' =>
      have htail : ds ++ rest = ds' ++ rest' := (List.cons.inj heq).2
      obtain rfl : ds = ds' := by
        rw [← hdigits hdigit hrest.endsDigits, htail, hdigits hdigit' hrest'.endsDigits]
      exact ⟨rfl, List.append_cancel_left htail⟩

/-- A date, an hour and a minute, and what follows them. -/
inductive ThenMinutes : Stamp → List Char → List Char → Prop
  | mk {y : Int} {mo d h mi : Nat} {date hour minute rest : List Char} {c : Char}
    (hdate : WritesDate y mo d date) (hc : c.isDigit = false) (hhour : WritesSmall h hour)
    (hminute : WritesSmall mi minute) (hrest : EndsDigits rest) :
    ThenMinutes ⟨y, mo, d, h, mi, 0, [], 0⟩ rest (date ++ c :: (hour ++ ':' :: (minute ++ rest)))

/-- A date and a time with seconds, and what follows them. -/
inductive ThenSeconds : Stamp → List Char → List Char → Prop
  | mk {s : Stamp} {sec : Nat} {ds second fraction rest cs : List Char}
    (hminutes : ThenMinutes s (':' :: (second ++ (fraction ++ rest))) cs)
    (hsecond : WritesSmall sec second) (hfraction : WritesFraction ds fraction)
    (hrest : EndsSecond rest) : ThenSeconds { s with second := sec, fraction := ds } rest cs

section Forms

variable {s s' : Stamp} {rest rest' cs : List Char}

theorem ThenMinutes.unique (h : ThenMinutes s rest cs) (h' : ThenMinutes s' rest' cs) :
    s = s' ∧ rest = rest' := by
  obtain ⟨hdate, hc, hhour, hminute, hrest⟩ := h
  generalize heq : _ ++ _ :: _ = cs at h'
  obtain ⟨hdate', hc', hhour', hminute', hrest'⟩ := h'
  obtain ⟨hdates, htime⟩ := hdate.unique hdate' (.cons hc _) (.cons hc' _) heq
  obtain ⟨rfl, hminutes⟩ := hhour.unique hhour' (.colon _) (.colon _) (List.cons.inj htime).2
  obtain ⟨rfl, hrests⟩ := hminute.unique hminute' hrest hrest' (List.cons.inj hminutes).2
  obtain ⟨rfl, rfl, rfl⟩ := by simpa using hdates
  exact ⟨rfl, hrests⟩

theorem ThenSeconds.unique (h : ThenSeconds s rest cs) (h' : ThenSeconds s' rest' cs) :
    s = s' ∧ rest = rest' := by
  obtain ⟨hminutes, hsecond, hfraction, hrest⟩ := h
  obtain ⟨hminutes', hsecond', hfraction', hrest'⟩ := h'
  obtain ⟨rfl, hseconds⟩ := hminutes.unique hminutes'
  obtain ⟨rfl, hfractions⟩ := hsecond.unique hsecond' (hfraction.endsDigits hrest.endsDigits)
    (hfraction'.endsDigits hrest'.endsDigits) (List.cons.inj hseconds).2
  obtain ⟨rfl, hrests⟩ := hfraction.unique hfraction' hrest hrest' hfractions
  exact ⟨rfl, hrests⟩

/-- No text goes on both to the end of its minutes and to its seconds. -/
theorem ThenSeconds.not_minutes (h : ThenSeconds s rest cs) : ¬ ThenMinutes s' [] cs := by
  intro h'
  obtain ⟨hminutes, -, -, -⟩ := h
  exact absurd (h'.unique hminutes).2 (by simp)

/-- A date alone has no hour behind it. -/
theorem ThenMinutes.not_dated (h : ThenMinutes s rest cs) : ¬ Dated s' cs := by
  intro h'
  obtain ⟨hdate, hc, -, -, -⟩ := h
  generalize heq : _ ++ _ :: _ = cs at h'
  obtain ⟨hdate'⟩ := h'
  have hnil := (hdate.unique hdate' (.cons hc _) .nil (by rw [heq, List.append_nil])).2
  exact absurd hnil (by simp)

theorem ThenSeconds.not_dated (h : ThenSeconds s rest cs) : ¬ Dated s' cs := by
  obtain ⟨hminutes, -, -, -⟩ := h
  exact hminutes.not_dated

/-- What a text with an offset has behind its seconds. -/
theorem Zoned.thenSeconds (h : Zoned s cs) :
    ∃ offset, WritesOffset s.offset offset ∧ ThenSeconds { s with offset := 0 } offset cs := by
  obtain @⟨y, mo, d, h, mi, sec, o, ds, year, month, day, hour, minute, second, fraction, offset, c,
    hyear, hmonth, hday, hc, hhour, hminute, hsecond, hfraction, hoffset⟩ := h
  have hdate := WritesDate.mk hyear.writesYear hmonth.writesSmall hday.writesSmall
  have hc : c.isDigit = false := by rcases hc with rfl | rfl | rfl <;> rfl
  have hminutes := ThenMinutes.mk hdate hc hhour.writesSmall hminute.writesSmall
    (.colon (second ++ (fraction ++ offset)))
  have hseconds := ThenSeconds.mk hminutes hsecond.writesSmall hfraction hoffset.endsSecond
  exact ⟨offset, hoffset, by simpa using hseconds⟩

theorem Timed.thenSeconds (h : Timed s cs) : ThenSeconds s [] cs := by
  obtain @⟨y, mo, d, h, mi, sec, ds, date, hour, minute, second, fraction, hdate, hhour, hminute,
    hsecond, hfraction⟩ := h
  have hminutes := ThenMinutes.mk (c := 'T') hdate rfl hhour hminute (.colon (second ++ fraction))
  exact .mk (by rwa [List.append_nil]) hsecond hfraction .nil

theorem ToTheMinute.thenMinutes (h : ToTheMinute s cs) : ThenMinutes s [] cs := by
  obtain ⟨hdate, hhour, hminute⟩ := h
  have hminutes := ThenMinutes.mk (c := 'T') hdate rfl hhour hminute .nil
  rwa [List.append_nil] at hminutes

theorem Timed.not_zoned (h : Timed s cs) : ¬ Zoned s' cs := by
  intro h'
  obtain ⟨offset, hoffset, hseconds⟩ := h'.thenSeconds
  exact hoffset.ne_nil (hseconds.unique h.thenSeconds).2

theorem ToTheMinute.not_zoned (h : ToTheMinute s cs) : ¬ Zoned s' cs := by
  intro h'
  obtain ⟨_, -, hseconds⟩ := h'.thenSeconds
  exact hseconds.not_minutes h.thenMinutes

theorem ToTheMinute.not_timed (h : ToTheMinute s cs) : ¬ Timed s' cs :=
  fun h' => h'.thenSeconds.not_minutes h.thenMinutes

theorem ToTheMinute.not_dated (h : ToTheMinute s cs) : ¬ Dated s' cs :=
  h.thenMinutes.not_dated

theorem Dated.not_zoned (h : Dated s cs) : ¬ Zoned s' cs := by
  intro h'
  obtain ⟨_, -, hseconds⟩ := h'.thenSeconds
  exact hseconds.not_dated h

theorem Dated.not_timed (h : Dated s cs) : ¬ Timed s' cs :=
  fun h' => h'.thenSeconds.not_dated h

theorem Zoned.unique (h : Zoned s cs) (h' : Zoned s' cs) : s = s' := by
  obtain ⟨offset, hoffset, hseconds⟩ := h.thenSeconds
  obtain ⟨offset', hoffset', hseconds'⟩ := h'.thenSeconds
  obtain ⟨hstamps, rfl⟩ := hseconds.unique hseconds'
  have hoffsets := hoffset.unique hoffset'
  cases s
  cases s'
  simp_all

theorem Timed.unique (h : Timed s cs) (h' : Timed s' cs) : s = s' :=
  (h.thenSeconds.unique h'.thenSeconds).1

theorem Dated.unique (h : Dated s cs) (h' : Dated s' cs) : s = s' := by
  obtain ⟨hdate⟩ := h
  obtain ⟨hdate'⟩ := h'
  obtain ⟨rfl, rfl, rfl⟩ := by simpa using (hdate.unique hdate' .nil .nil rfl).1
  rfl

end Forms

/-! ## Texts that stand for a moment -/

/-- The forms in which a text stands for a moment. -/
inductive Denotes (s : Stamp) (cs : List Char) : Prop
  | zoned (h : Zoned s cs)
  | timed (h : Timed s cs)
  | dated (h : Dated s cs)

theorem ToTheMinute.not_denotes {s s' : Stamp} {cs : List Char} (h : ToTheMinute s cs) :
    ¬ Denotes s' cs := by
  rintro (h' | h' | h')
  · exact h.not_zoned h'
  · exact h.not_timed h'
  · exact h.not_dated h'

/-- A text says one thing. -/
theorem Denotes.unique {s s' : Stamp} {cs : List Char} (h : Denotes s cs) (h' : Denotes s' cs) :
    s = s' := by
  cases h with
  | zoned h =>
    cases h' with
    | zoned h' => exact h.unique h'
    | timed h' => exact absurd h h'.not_zoned
    | dated h' => exact absurd h h'.not_zoned
  | timed h =>
    cases h' with
    | zoned h' => exact absurd h' h.not_zoned
    | timed h' => exact h.unique h'
    | dated h' => exact absurd h h'.not_timed
  | dated h =>
    cases h' with
    | zoned h' => exact absurd h' h.not_zoned
    | timed h' => exact absurd h' h.not_timed
    | dated h' => exact h.unique h'

theorem moment?_of_denotes {s : Stamp} {text : String} (h : Denotes s text.toList) :
    moment? text = s.moment? := by
  simp only [moment?]
  cases h with
  | zoned h =>
    have hseconds := Moment.read_eq_none _ Timed Moment.exists_timed fun s' h' => h'.not_zoned h
    have hdate := Moment.read_eq_none _ Dated Moment.exists_dated fun s' h' => h'.not_zoned h
    rw [Moment.readWithOffset?_of_zoned h, hseconds, hdate, Option.or_none, Option.or_none]
  | timed h =>
    have hoffset := Moment.read_eq_none _ Zoned Moment.exists_zoned fun s' h' => h.not_zoned h'
    have hdate := Moment.read_eq_none _ Dated Moment.exists_dated fun s' h' => h'.not_timed h
    rw [hoffset, Moment.readSeconds?_of_timed h, hdate, Option.none_or, Option.or_none]
  | dated h =>
    have hoffset := Moment.read_eq_none _ Zoned Moment.exists_zoned fun s' h' => h.not_zoned h'
    have hseconds := Moment.read_eq_none _ Timed Moment.exists_timed fun s' h' => h.not_timed h'
    rw [hoffset, hseconds, Moment.readDate?_of_dated h, Option.none_or, Option.none_or]

theorem exists_denotes {text : String} {m : Moment} (h : moment? text = some m) :
    ∃ s, Denotes s text.toList := by
  rcases Option.or_eq_some_iff.mp h with hzoned | ⟨-, h⟩
  · exact (Moment.exists_zoned hzoned).imp fun s => .zoned
  · rcases Option.or_eq_some_iff.mp h with htimed | ⟨-, hdated⟩
    · exact (Moment.exists_timed htimed).imp fun s => .timed
    · exact (Moment.exists_dated hdated).imp fun s => .dated

/-- A text stands for the moment that its stamp says, if the calendar and the clock have it. -/
theorem moment?_eq_some_iff {text : String} {m : Moment} :
    moment? text = some m ↔ ∃ s, Denotes s text.toList ∧ s.Valid ∧ m = s.utc := by
  constructor
  · intro h
    obtain ⟨s, hs⟩ := exists_denotes h
    exact ⟨s, hs, Stamp.moment?_eq_some_iff.mp (by rw [← moment?_of_denotes hs, h])⟩
  · rintro ⟨s, hs, hvalid⟩
    rw [moment?_of_denotes hs]
    exact Stamp.moment?_eq_some_iff.mpr hvalid

/-- Dates to the minute pass as dates beside those that stand for a moment. -/
theorem isDateText_iff {text : String} :
    isDateText text = true ↔
      ∃ s : Stamp, s.Valid ∧ (Denotes s text.toList ∨ ToTheMinute s text.toList) := by
  simp only [isDateText, Bool.or_eq_true, Option.isSome_iff_exists,
    Moment.readWithOffset?_eq_some_iff, Moment.readSeconds?_eq_some_iff,
    Moment.readMinutes?_eq_some_iff, Moment.readDate?_eq_some_iff]
  constructor
  · rintro (((⟨-, s, hs, hvalid, -⟩ | ⟨-, s, hs, hvalid, -⟩) | ⟨-, s, hs, hvalid, -⟩) |
      ⟨-, s, hs, hvalid, -⟩)
    · exact ⟨s, hvalid, .inl (.zoned hs)⟩
    · exact ⟨s, hvalid, .inl (.timed hs)⟩
    · exact ⟨s, hvalid, .inr hs⟩
    · exact ⟨s, hvalid, .inl (.dated hs)⟩
  · rintro ⟨s, hvalid, (hs | hs | hs) | hs⟩
    · exact .inl (.inl (.inl ⟨s.utc, s, hs, hvalid, rfl⟩))
    · exact .inl (.inl (.inr ⟨s.utc, s, hs, hvalid, rfl⟩))
    · exact .inr ⟨s.utc, s, hs, hvalid, rfl⟩
    · exact .inl (.inr ⟨s.utc, s, hs, hvalid, rfl⟩)

end RequestValidation.Calendar
