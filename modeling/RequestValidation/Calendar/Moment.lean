import RequestValidation.Calendar.Date
import RequestValidation.Decimal.Numeral
import RequestValidation.Text.Blank
/-!
# Dates and times as text

`Moment.readWithOffset?` reads an RFC 3339 time with its distance from UTC; the other readers take
times and dates without one, in which numbers may have fewer digits, blanks may stand before a
number and the year may have a sign and any length. All readers want the whole text.

A second numbered 60 is kept as a whole second of nanoseconds on top of the 59th. `Moment.render`
writes a moment as RFC 3339 text in UTC with three digits behind the seconds; years outside of
0000 to 9999 get a sign.
-/
namespace RequestValidation.Calendar

/-- A time of day on a date. -/
structure Moment where
  date : Date
  /-- Whole seconds since midnight. -/
  second : Nat
  /-- Nanoseconds on top, a whole second more of them in a leap second. -/
  nanos : Nat
deriving DecidableEq, Repr

/-- Between `least` and `most` digits as a number; they are taken as long as they last. -/
def takeDigits? (least most : Nat) (cs : List Char) : Option (Nat × List Char) :=
  let digits := (cs.take most).takeWhile Char.isDigit
  if digits.length < least then none
  else some (natOfDigits digits, cs.drop digits.length)

/-- One given character. -/
def takeChar? (c : Char) : List Char → Option (List Char)
  | d :: rest => if d = c then some rest else none
  | [] => none

/-- A run of digits behind the seconds as nanoseconds; digits behind the ninth do not count. -/
def takeNanos? (cs : List Char) : Option (Nat × List Char) :=
  let digits := (cs.take 9).takeWhile Char.isDigit
  if digits.isEmpty then none
  else some (natOfDigits digits * Nat.pow 10 (9 - digits.length),
    (cs.drop digits.length).dropWhile Char.isDigit)

/-- An optional fraction of a second, which begins with a point. -/
def takeFraction? (cs : List Char) : Option (Nat × List Char) :=
  match cs with
  | '.' :: rest => takeNanos? rest
  | _ => some (0, cs)

/-- A time of day; the sixtieth second is a leap second. -/
def Moment.of? (date : Date) (hour minute second nanos : Nat) : Option Moment :=
  if 23 < hour ∨ 59 < minute ∨ 60 < second then none
  else if second = 60 then some ⟨date, hour * 3600 + minute * 60 + 59, nanos + 1000000000⟩
  else some ⟨date, hour * 3600 + minute * 60 + second, nanos⟩

/-- Nothing may be left over. -/
def complete? {α : Type} (a : α) : List Char → Option α
  | [] => some a
  | _ => none

/-- Seconds east of UTC: `Z`, or a sign, two digits, a colon and two digits. -/
def takeOffset? (cs : List Char) : Option (Int × List Char) :=
  match cs with
  | [] => none
  | c :: rest =>
    if c = 'Z' ∨ c = 'z' then some (0, rest)
    else
      let sign : Option Int :=
        if c = '+' then some 1 else if c = '-' ∨ c = '\u2212' then some (-1) else none
      match sign, takeDigits? 2 2 rest with
      | some sign, some (hours, ':' :: rest) =>
        match takeDigits? 2 2 rest with
        | some (minutes, rest) =>
          if hours < 24 ∧ minutes < 60 then some (sign * (hours * 3600 + minutes * 60), rest)
          else none
        | none => none
      | _, _ => none

namespace Moment

/-- The same moment on a clock that is `offset` seconds behind, for less than a day. -/
def back (m : Moment) (offset : Int) : Moment :=
  let shifted : Int := m.second - offset
  if shifted < 0 then { m with date := m.date.yesterday, second := (shifted + 86400).toNat }
  else if 86400 ≤ shifted then
    { m with date := m.date.tomorrow, second := (shifted - 86400).toNat }
  else { m with second := shifted.toNat }

/-- A time with its offset from UTC, as the moment in UTC; mirrors `parse_from_rfc3339`. -/
def readWithOffset? (text : List Char) : Option Moment := do
  let (year, cs) ← takeDigits? 4 4 text
  let (month, cs) ← takeDigits? 2 2 (← takeChar? '-' cs)
  let (day, cs) ← takeDigits? 2 2 (← takeChar? '-' cs)
  let cs ← (takeChar? 'T' cs).or ((takeChar? 't' cs).or (takeChar? ' ' cs))
  let (hour, cs) ← takeDigits? 2 2 cs
  let (minute, cs) ← takeDigits? 2 2 (← takeChar? ':' cs)
  let (second, cs) ← takeDigits? 2 2 (← takeChar? ':' cs)
  let (nanos, cs) ← takeFraction? cs
  let (offset, cs) ← takeOffset? cs
  let date ← Date.of? year month day
  let m ← Moment.of? date hour minute second nanos
  complete? (m.back offset) cs

/-- A number of one or two digits, with blanks before it. -/
def takeSmall? (cs : List Char) : Option (Nat × List Char) :=
  takeDigits? 1 2 (Text.trimStart Text.isBlank cs)

/-- A year: up to four digits, or a sign and any number of them. -/
def takeYear? (cs : List Char) : Option (Int × List Char) :=
  match Text.trimStart Text.isBlank cs with
  | '-' :: rest => (takeDigits? 1 rest.length rest).map fun r => (-(r.1 : Int), r.2)
  | '+' :: rest => (takeDigits? 1 rest.length rest).map fun r => ((r.1 : Int), r.2)
  | rest => (takeDigits? 1 4 rest).map fun r => ((r.1 : Int), r.2)

/-- Year, month and day with hyphens between. -/
def takeDate? (cs : List Char) : Option ((Int × Nat × Nat) × List Char) := do
  let (year, cs) ← takeYear? cs
  let (month, cs) ← takeSmall? (← takeChar? '-' cs)
  let (day, cs) ← takeSmall? (← takeChar? '-' cs)
  some ((year, month, day), cs)

/-- A date alone, as its midnight. -/
def readDate? (text : List Char) : Option Moment := do
  let ((year, month, day), cs) ← takeDate? text
  let date ← Date.of? year month day
  complete? ⟨date, 0, 0⟩ cs

/-- A date and a time of hours and minutes. -/
def readMinutes? (text : List Char) : Option Moment := do
  let ((year, month, day), cs) ← takeDate? text
  let (hour, cs) ← takeSmall? (← takeChar? 'T' cs)
  let (minute, cs) ← takeSmall? (← takeChar? ':' cs)
  let date ← Date.of? year month day
  let m ← Moment.of? date hour minute 0 0
  complete? m cs

/-- A date and a time with seconds, to which a fraction may be added. -/
def readSeconds? (text : List Char) : Option Moment := do
  let ((year, month, day), cs) ← takeDate? text
  let (hour, cs) ← takeSmall? (← takeChar? 'T' cs)
  let (minute, cs) ← takeSmall? (← takeChar? ':' cs)
  let (second, cs) ← takeSmall? (← takeChar? ':' cs)
  let (nanos, cs) ← takeFraction? cs
  let date ← Date.of? year month day
  let m ← Moment.of? date hour minute second nanos
  complete? m cs

/-- A number with zeros before it up to a width. -/
def padded (width n : Nat) : List Char :=
  let digits := Nat.toDigits 10 n
  List.replicate (width - digits.length) '0' ++ digits

def renderYear (year : Int) : List Char :=
  if 0 ≤ year ∧ year ≤ 9999 then padded 4 year.toNat
  else (if year < 0 then '-' else '+') :: padded 4 year.natAbs

/-- RFC 3339 text in UTC, cut to milliseconds; mirrors `to_rfc3339_opts`. -/
def render (m : Moment) : String :=
  let leap := if 1000000000 ≤ m.nanos then 1 else 0
  let nanos := m.nanos - leap * 1000000000
  String.ofList
    (renderYear m.date.year ++ '-' :: padded 2 m.date.month ++ '-' :: padded 2 m.date.day ++
      'T' :: padded 2 (m.second / 3600) ++ ':' :: padded 2 (m.second / 60 % 60) ++
      ':' :: padded 2 (m.second % 60 + leap) ++ '.' :: padded 3 (nanos / 1000000) ++ ['Z'])

end Moment

/-- ISO 8601 in one of the forms that are read; mirrors `is_iso8601`. -/
def isDateText (text : String) : Bool :=
  let cs := text.toList
  (Moment.readWithOffset? cs).isSome || (Moment.readSeconds? cs).isSome ||
    (Moment.readMinutes? cs).isSome || (Moment.readDate? cs).isSome

/-- The moment that a text stands for; without an offset it is one in UTC; mirrors `parse_date`. -/
def moment? (text : String) : Option Moment :=
  let cs := text.toList
  (Moment.readWithOffset? cs).or ((Moment.readSeconds? cs).or (Moment.readDate? cs))

end RequestValidation.Calendar
