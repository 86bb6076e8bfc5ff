import RequestValidation.Proofs.Calendar.Rendered
import RequestValidation.Rule.Change
import RequestValidation.Rule.Check
/-!
# The rules about dates

The validator of dates and the sanitizer that rewrites them read the same texts, but for dates to
the minute: those pass, and the sanitizer has no reader for them.

What the sanitizer writes is a date again and stays as it is, and names the instant of the text cut
to milliseconds, as long as the year in UTC has four digits. Offsets reach across the ends of that
range, and years may be written with a sign; then what it writes is not a date for either rule.

Results:
* `passes_iff`, `changes_iff`: which texts the validator accepts, and which ones the sanitizer.
* `dates_agree_iff`: they agree about a text just if it is not a date to the minute.
* `rewritten_date_stable_iff`: when a rewritten date is a date that stays as it is.
-/
namespace RequestValidation.Calendar

section Rules

variable {args : Arguments} {t u : String}

theorem passes_iff :
    Rule.isIso8601.verdicts args (some (.string t)) = .ok [⟨some (.string t), true⟩] ↔
      ∃ s : Stamp, s.Valid ∧ (Denotes s t.toList ∨ ToTheMinute s t.toList) := by
  have hverdicts : Rule.isIso8601.verdicts args (some (.string t)) =
      .ok [⟨some (.string t), isDateText t⟩] := rfl
  rw [hverdicts, ← isDateText_iff]
  simp

theorem change_toDate (args : Arguments) (t : String) :
    Rule.toDate.change args (some (.string t)) =
      .ok (some (Json.ofOption (fun m => .string m.render) (moment? t))) := rfl

/-- The sanitizer writes the moment that the text stands for. -/
theorem change_eq_string_iff :
    Rule.toDate.change args (some (.string t)) = .ok (some (.string u)) ↔
      ∃ s : Stamp, s.Valid ∧ Denotes s t.toList ∧ s.utc.render = u := by
  rw [change_toDate]
  cases hm : moment? t with
  | none =>
    have hnot : ¬ ∃ s : Stamp, s.Valid ∧ Denotes s t.toList ∧ s.utc.render = u := by
      rintro ⟨s, hvalid, hs, -⟩
      rw [moment?_eq_some_iff.mpr ⟨s, hs, hvalid, rfl⟩] at hm
      cases hm
    simp [Json.ofOption, hnot]
  | some m =>
    obtain ⟨s, hs, hvalid, rfl⟩ := moment?_eq_some_iff.mp hm
    have hiff : (∃ s' : Stamp, s'.Valid ∧ Denotes s' t.toList ∧ s'.utc.render = u) ↔
        s.utc.render = u := by
      constructor
      · rintro ⟨s', -, hs', hu⟩
        rwa [hs.unique hs']
      · exact fun hu => ⟨s, hvalid, hs, hu⟩
    simp [Json.ofOption, hiff]

theorem changes_iff :
    (∃ v, v ≠ Json.null ∧ Rule.toDate.change args (some (.string t)) = .ok (some v)) ↔
      ∃ s : Stamp, s.Valid ∧ Denotes s t.toList := by
  constructor
  · rintro ⟨v, hv, hchange⟩
    rw [change_toDate] at hchange
    cases hm : moment? t with
    | none =>
      rw [hm] at hchange
      exact absurd (Option.some.inj (Except.ok.inj hchange)).symm hv
    | some m =>
      obtain ⟨s, hs, hvalid, -⟩ := moment?_eq_some_iff.mp hm
      exact ⟨s, hvalid, hs⟩
  · rintro ⟨s, hvalid, hs⟩
    exact ⟨.string s.utc.render, nofun, change_eq_string_iff.mpr ⟨s, hvalid, hs, rfl⟩⟩

end Rules

/-- **Where the rules about dates agree.** The validator accepts a text just if the sanitizer finds
a date in it, unless the text is a date to the minute of the calendar and the clock. -/
theorem dates_agree_iff (args args' : Arguments) (t : String) :
    (Rule.isIso8601.verdicts args (some (.string t)) = .ok [⟨some (.string t), true⟩] ↔
      ∃ v, v ≠ Json.null ∧ Rule.toDate.change args' (some (.string t)) = .ok (some v)) ↔
      ¬ ∃ s : Stamp, s.Valid ∧ ToTheMinute s t.toList := by
  rw [passes_iff, changes_iff]
  constructor
  · rintro hagree ⟨s, hvalid, hs⟩
    obtain ⟨s', -, hs'⟩ := hagree.mp ⟨s, hvalid, .inr hs⟩
    exact hs.not_denotes hs'
  · intro hminute
    constructor
    · rintro ⟨s, hvalid, hs | hs⟩
      · exact ⟨s, hvalid, hs⟩
      · exact absurd ⟨s, hvalid, hs⟩ hminute
    · rintro ⟨s, hvalid, hs⟩
      exact ⟨s, hvalid, .inl hs⟩

/-- A date to the minute passes, and the sanitizer makes nothing of it. -/
theorem minute_passes_unread :
    Rule.isIso8601.verdicts [] (some (.string "2024-02-29T10:00")) =
        .ok [⟨some (.string "2024-02-29T10:00"), true⟩] ∧
      Rule.toDate.change [] (some (.string "2024-02-29T10:00")) = .ok (some .null) :=
  ⟨rfl, rfl⟩

/-! ## Rewritten dates -/

/-- One stamp names the instant of another, cut to milliseconds, and a sixtieth second if the
other does. -/
structure Stamp.CutTo (s s' : Stamp) : Prop where
  instant : s'.instant = (⌊s.instant * 1000⌋ : ℚ) / 1000
  leap : s'.second = 60 ↔ s.second = 60

theorem Stamp.cutTo_stamp {s : Stamp} (hv : s.Valid) (hw : s.Written) : s.CutTo s.utc.stamp := by
  have hvalid := Stamp.valid_utc hv hw
  constructor
  · rw [hvalid.instant_stamp, Stamp.millis_utc hv hw]
  · have hsecond : s.utc.stamp.second = s.utc.second % 60 + s.utc.leap := rfl
    rw [hsecond, ← Stamp.leap_utc hw]
    rcases hvalid.leap_cases with ⟨hleap, hlt⟩ | ⟨hleap, hge, hlast⟩
    · omega
    · omega

/-- **When a rewritten date is stable.** What the sanitizer writes of a text is a date for the
validator, stays as it is under the sanitizer, and names the instant of the text cut to
milliseconds, just if the year of the text in UTC has four digits. -/
theorem rewritten_date_stable_iff (args args' : Arguments) {t u : String}
    (h : Rule.toDate.change args (some (.string t)) = .ok (some (.string u))) :
    (Rule.isIso8601.verdicts args' (some (.string u)) = .ok [⟨some (.string u), true⟩] ∧
      Rule.toDate.change args (some (.string u)) = .ok (some (.string u)) ∧
      ∃ s s' : Stamp, Denotes s t.toList ∧ Denotes s' u.toList ∧ s'.Valid ∧ s.CutTo s') ↔
      ∃ s : Stamp, Denotes s t.toList ∧ 0 ≤ s.utc.date.year ∧ s.utc.date.year ≤ 9999 := by
  obtain ⟨s, hs, hden, rfl⟩ := change_eq_string_iff.mp h
  have hvalid := Stamp.valid_utc hs hden.written
  constructor
  · rintro ⟨hpasses, -, -⟩
    have htext := isDateText_iff.mpr (passes_iff.mp hpasses)
    exact ⟨s, hden, hvalid.isDateText_render.mp htext⟩
  · rintro ⟨s', hs', hyear⟩
    obtain rfl := hden.unique hs'
    have hzoned : Denotes s.utc.stamp s.utc.render.toList := .zoned (hvalid.zoned_render hyear)
    have hstamp := hvalid.valid_stamp hyear
    refine ⟨passes_iff.mpr ⟨_, hstamp, .inl hzoned⟩, ?_, s, _, hden, hzoned, hstamp,
      Stamp.cutTo_stamp hs hden.written⟩
    refine change_eq_string_iff.mpr ⟨_, hstamp, hzoned, ?_⟩
    rw [hvalid.utc_stamp, Moment.render_toMillis]

/-- The end of a leap day west of UTC is written as the next day. -/
theorem leap_day_rewritten_stable :
    Rule.toDate.change [] (some (.string "2024-02-29T23:30:00.1239-01:00")) =
        .ok (some (.string "2024-03-01T00:30:00.123Z")) ∧
      Rule.isIso8601.verdicts [] (some (.string "2024-03-01T00:30:00.123Z")) =
        .ok [⟨some (.string "2024-03-01T00:30:00.123Z"), true⟩] ∧
      Rule.toDate.change [] (some (.string "2024-03-01T00:30:00.123Z")) =
        .ok (some (.string "2024-03-01T00:30:00.123Z")) ∧
      ∃ s s' : Stamp, Denotes s "2024-02-29T23:30:00.1239-01:00".toList ∧
        Denotes s' "2024-03-01T00:30:00.123Z".toList ∧ s'.Valid ∧ s.CutTo s' := by
  have hwritten : Rule.toDate.change [] (some (.string "2024-02-29T23:30:00.1239-01:00")) =
      .ok (some (.string "2024-03-01T00:30:00.123Z")) := rfl
  have hdate : (moment? "2024-02-29T23:30:00.1239-01:00").map (·.date) = some ⟨2024, 3, 1⟩ := rfl
  obtain ⟨m, hm, hmarch⟩ := Option.map_eq_some_iff.mp hdate
  obtain ⟨s, hs, -, rfl⟩ := moment?_eq_some_iff.mp hm
  have hyear : 0 ≤ s.utc.date.year ∧ s.utc.date.year ≤ 9999 := by
    rw [hmarch]
    decide
  exact ⟨hwritten, (rewritten_date_stable_iff [] [] hwritten).mpr ⟨s, hs, hyear⟩⟩

/-- The last hour of the year 9999 west of UTC is one of the year 10000: what is written of it has
a sign, does not pass, and is not read again. -/
theorem last_hour_rewritten_unread :
    Rule.toDate.change [] (some (.string "9999-12-31T23:59:59-01:00")) =
        .ok (some (.string "+10000-01-01T00:59:59.000Z")) ∧
      Rule.isIso8601.verdicts [] (some (.string "+10000-01-01T00:59:59.000Z")) =
        .ok [⟨some (.string "+10000-01-01T00:59:59.000Z"), false⟩] ∧
      Rule.toDate.change [] (some (.string "+10000-01-01T00:59:59.000Z")) = .ok (some .null) :=
  ⟨rfl, rfl, rfl⟩

end RequestValidation.Calendar
