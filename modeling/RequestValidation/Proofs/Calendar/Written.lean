import Mathlib.Data.List.TakeWhile
import RequestValidation.Calendar.Moment
import RequestValidation.Proofs.Decimal.Digits
import RequestValidation.Proofs.Text.Margins
/-!
# How numbers, fractions and offsets are written

The parts of dates and times as a grammar beside their readers. In front of anything that does not
continue it, each part is taken as a whole; and whatever a reader takes is such a part.

Results:
* `takeDigits?_append`, `exists_of_takeDigits?`: a reader of digits takes a run of digits.
* `takeSmall?_append`, `exists_of_takeSmall?`: a reader of small numbers takes blanks and digits.
* `takeYear?_append`, `exists_of_takeYear?`: a reader of years takes a sign, too.
* `takeFraction?_append`, `exists_of_takeFraction?`: all digits of a fraction are taken.
* `takeOffset?_append`, `exists_of_takeOffset?`: so is an offset.
-/
namespace RequestValidation.Calendar

/-! ## Numbers -/

/-- A run of digits with its number. -/
structure Digits (least most n : Nat) (cs : List Char) : Prop where
  least_le : least ≤ cs.length
  le_most : cs.length ≤ most
  isDigit : ∀ c ∈ cs, c.isDigit = true
  value : natOfDigits cs = n

def Blanks (cs : List Char) : Prop := ∀ c ∈ cs, Text.isBlank c = true

/-- Whether a text does not go on with a digit. -/
def EndsDigits (rest : List Char) : Prop := ∀ c, rest.head? = some c → c.isDigit = false

/-- One or two digits with blanks before them. -/
inductive WritesSmall : Nat → List Char → Prop
  | mk {n : Nat} {blanks cs : List Char} (hblanks : Blanks blanks) (hdigits : Digits 1 2 n cs) :
    WritesSmall n (blanks ++ cs)

/-- Up to four digits, or a sign and any number of them, with blanks before. -/
inductive WritesYear : Int → List Char → Prop
  | plain {n : Nat} {blanks cs : List Char} (hblanks : Blanks blanks) (hdigits : Digits 1 4 n cs) :
    WritesYear n (blanks ++ cs)
  | minus {n : Nat} {blanks cs : List Char} (hblanks : Blanks blanks)
    (hdigits : Digits 1 cs.length n cs) : WritesYear (-n) (blanks ++ '-' :: cs)
  | plus {n : Nat} {blanks cs : List Char} (hblanks : Blanks blanks)
    (hdigits : Digits 1 cs.length n cs) : WritesYear n (blanks ++ '+' :: cs)

theorem Blanks.nil : Blanks [] := nofun

theorem EndsDigits.nil : EndsDigits [] := nofun

theorem EndsDigits.cons {c : Char} (hc : c.isDigit = false) (rest : List Char) :
    EndsDigits (c :: rest) := by
  intro d hd
  obtain rfl := Option.some.inj hd
  exact hc

namespace Digits

variable {least most n : Nat} {cs : List Char}

theorem mono (h : Digits least most n cs) (most' : Nat) (hmost : cs.length ≤ most') :
    Digits least most' n cs := ⟨h.least_le, hmost, h.isDigit, h.value⟩

theorem ne_nil (h : Digits (least + 1) most n cs) : cs ≠ [] := by
  have hlength := h.least_le
  rintro rfl
  simp at hlength

theorem writesSmall (h : Digits 2 2 n cs) : WritesSmall n cs :=
  .mk .nil ⟨by have := h.least_le; omega, h.le_most, h.isDigit, h.value⟩

theorem writesYear (h : Digits 4 4 n cs) : WritesYear n cs :=
  .plain .nil ⟨by have := h.least_le; omega, h.le_most, h.isDigit, h.value⟩

/-- No digits are blanks. -/
theorem trimStart_blanks {blanks : List Char} (hblanks : Blanks blanks)
    (h : Digits (least + 1) most n cs) (rest : List Char) :
    Text.trimStart Text.isBlank (blanks ++ (cs ++ rest)) = cs ++ rest := by
  cases cs with
  | nil => exact absurd rfl h.ne_nil
  | cons c cs =>
    refine Text.trimStart_margin hblanks ?_
    rintro _ ⟨⟩
    exact isBlank_of_isDigit (h.isDigit c List.mem_cons_self)

end Digits

theorem trimStart_sign {blanks : List Char} (hblanks : Blanks blanks) {c : Char}
    (hc : Text.isBlank c = false) (rest : List Char) :
    Text.trimStart Text.isBlank (blanks ++ c :: rest) = c :: rest := by
  refine Text.trimStart_margin hblanks ?_
  rintro _ ⟨⟩
  exact hc

/-- What is stripped in front of a number are blanks. -/
theorem exists_blanks {cs tail : List Char} (h : Text.trimStart Text.isBlank cs = tail) :
    ∃ blanks, Blanks blanks ∧ cs = blanks ++ tail := by
  refine ⟨cs.takeWhile Text.isBlank, fun c hc => List.mem_takeWhile_imp hc, ?_⟩
  rw [← h, Text.trimStart_append]

/-- Digits are taken as long as they last, up to a number of them. -/
theorem takeWhile_take_append {most : Nat} {cs rest : List Char} (hle : cs.length ≤ most)
    (hdigit : ∀ c ∈ cs, c.isDigit = true) (hrest : cs.length = most ∨ EndsDigits rest) :
    ((cs ++ rest).take most).takeWhile Char.isDigit = cs := by
  rw [List.take_append, List.take_of_length_le hle, List.takeWhile_append_of_pos hdigit]
  rcases hrest with hlength | hends
  · rw [hlength, Nat.sub_self, List.take_zero, List.takeWhile_nil, List.append_nil]
  · cases rest with
    | nil => simp
    | cons c rest =>
      cases most - cs.length with
      | zero => simp
      | succ k =>
        have hc := hends c rfl
        rw [List.take_succ_cons, List.takeWhile_cons_of_neg (by simp [hc]), List.append_nil]

/-- A run of digits is taken as a whole if it is as long as it may be or is not continued. -/
theorem takeDigits?_append {least most n : Nat} {cs rest : List Char}
    (h : Digits least most n cs) (hrest : cs.length = most ∨ EndsDigits rest) :
    takeDigits? least most (cs ++ rest) = some (n, rest) := by
  have hleast := h.least_le
  rw [takeDigits?, takeWhile_take_append h.le_most h.isDigit hrest, if_neg (by omega), h.value,
    List.drop_left]

/-- Two digits are taken whatever follows. -/
theorem takeDigits?_fixed {width n : Nat} {cs : List Char} (h : Digits width width n cs)
    (rest : List Char) : takeDigits? width width (cs ++ rest) = some (n, rest) :=
  takeDigits?_append h (.inl (Nat.le_antisymm h.le_most h.least_le))

/-- Without a limit the digits are taken to their end. -/
theorem takeDigits?_all {n : Nat} {cs rest : List Char} (h : Digits 1 cs.length n cs)
    (hrest : EndsDigits rest) :
    takeDigits? 1 (cs ++ rest).length (cs ++ rest) = some (n, rest) :=
  takeDigits?_append (h.mono (cs ++ rest).length (by simp)) (.inr hrest)

theorem exists_of_takeDigits? {least most n : Nat} {cs rest : List Char}
    (h : takeDigits? least most cs = some (n, rest)) :
    ∃ front, cs = front ++ rest ∧ Digits least most n front := by
  unfold takeDigits? at h
  have hprefix : (cs.take most).takeWhile Char.isDigit <+: cs :=
    (List.takeWhile_prefix _).trans (List.take_prefix _ _)
  have hdigit : ∀ c ∈ (cs.take most).takeWhile Char.isDigit, c.isDigit = true :=
    fun c hc => List.mem_takeWhile_imp hc
  have hmost : ((cs.take most).takeWhile Char.isDigit).length ≤ most :=
    Nat.le_trans (List.takeWhile_prefix _).length_le (List.length_take_le _ _)
  generalize (cs.take most).takeWhile Char.isDigit = front at h hprefix hdigit hmost
  obtain ⟨tail, rfl⟩ := hprefix
  simp only [List.drop_left] at h
  split at h
  · cases h
  · obtain ⟨rfl, rfl⟩ := Prod.mk.inj (Option.some.inj h)
    exact ⟨front, rfl, by omega, hmost, hdigit, rfl⟩

theorem takeChar?_cons (c : Char) (rest : List Char) : takeChar? c (c :: rest) = some rest :=
  if_pos rfl

theorem takeChar?_of_ne {c d : Char} (h : d ≠ c) (rest : List Char) :
    takeChar? c (d :: rest) = none := if_neg h

theorem eq_cons_of_takeChar? {c : Char} {cs rest : List Char} (h : takeChar? c cs = some rest) :
    cs = c :: rest := by
  cases cs with
  | nil => cases h
  | cons d cs =>
    by_cases hd : d = c
    · rw [takeChar?, if_pos hd, Option.some.injEq] at h
      rw [hd, h]
    · rw [takeChar?_of_ne hd] at h
      cases h

namespace Moment

theorem takeSmall?_append {n : Nat} {cs rest : List Char} (h : WritesSmall n cs)
    (hrest : EndsDigits rest) : takeSmall? (cs ++ rest) = some (n, rest) := by
  obtain ⟨hblanks, hdigits⟩ := h
  rw [takeSmall?, List.append_assoc, hdigits.trimStart_blanks hblanks]
  exact takeDigits?_append hdigits (.inr hrest)

theorem exists_of_takeSmall? {n : Nat} {cs rest : List Char} (h : takeSmall? cs = some (n, rest)) :
    ∃ front, cs = front ++ rest ∧ WritesSmall n front := by
  obtain ⟨front, hfront, hdigits⟩ := exists_of_takeDigits? h
  obtain ⟨blanks, hblanks, rfl⟩ := exists_blanks hfront
  exact ⟨blanks ++ front, (List.append_assoc _ _ _).symm, .mk hblanks hdigits⟩

theorem takeYear?_append {year : Int} {cs rest : List Char} (h : WritesYear year cs)
    (hrest : EndsDigits rest) : takeYear? (cs ++ rest) = some (year, rest) := by
  cases h with
  | @plain n blanks cs hblanks hdigits =>
    rw [takeYear?, List.append_assoc, hdigits.trimStart_blanks hblanks]
    have hread := takeDigits?_append hdigits (.inr hrest)
    cases cs with
    | nil => exact absurd rfl hdigits.ne_nil
    | cons c cs =>
      have hc := hdigits.isDigit c List.mem_cons_self
      split
      · rename_i hsign
        obtain ⟨rfl, -⟩ := List.cons.inj hsign
        cases hc
      · rename_i hsign
        obtain ⟨rfl, -⟩ := List.cons.inj hsign
        cases hc
      · rw [hread]
        rfl
  | @minus n blanks cs hblanks hdigits =>
    rw [takeYear?, List.append_assoc, List.cons_append, trimStart_sign hblanks (by decide)]
    simp only [takeDigits?_all hdigits hrest]
    rfl
  | @plus n blanks cs hblanks hdigits =>
    rw [takeYear?, List.append_assoc, List.cons_append, trimStart_sign hblanks (by decide)]
    simp only [takeDigits?_all hdigits hrest]
    rfl

theorem exists_of_takeYear? {year : Int} {cs rest : List Char}
    (h : takeYear? cs = some (year, rest)) :
    ∃ front, cs = front ++ rest ∧ WritesYear year front := by
  unfold takeYear? at h
  split at h
  · rename_i tail htrim
    obtain ⟨blanks, hblanks, rfl⟩ := exists_blanks htrim
    obtain ⟨⟨n, after⟩, htake, hyear⟩ := Option.map_eq_some_iff.mp h
    obtain ⟨rfl, rfl⟩ := Prod.mk.inj hyear
    obtain ⟨front, rfl, hdigits⟩ := exists_of_takeDigits? htake
    exact ⟨_, by simp, .minus hblanks (hdigits.mono _ (Nat.le_refl _))⟩
  · rename_i tail htrim
    obtain ⟨blanks, hblanks, rfl⟩ := exists_blanks htrim
    obtain ⟨⟨n, after⟩, htake, hyear⟩ := Option.map_eq_some_iff.mp h
    obtain ⟨rfl, rfl⟩ := Prod.mk.inj hyear
    obtain ⟨front, rfl, hdigits⟩ := exists_of_takeDigits? htake
    exact ⟨_, by simp, .plus hblanks (hdigits.mono _ (Nat.le_refl _))⟩
  · obtain ⟨⟨n, after⟩, htake, hyear⟩ := Option.map_eq_some_iff.mp h
    obtain ⟨rfl, rfl⟩ := Prod.mk.inj hyear
    obtain ⟨front, htrim, hdigits⟩ := exists_of_takeDigits? htake
    obtain ⟨blanks, hblanks, rfl⟩ := exists_blanks htrim
    exact ⟨_, (List.append_assoc _ _ _).symm, .plain hblanks hdigits⟩

end Moment

/-! ## Fractions and offsets -/

/-- A point and digits, or nothing. -/
inductive WritesFraction : List Char → List Char → Prop
  | none : WritesFraction [] []
  | digits {ds : List Char} (hne : ds ≠ []) (hdigit : ∀ c ∈ ds, c.isDigit = true) :
    WritesFraction ds ('.' :: ds)

/-- Seconds east of UTC. -/
inductive WritesOffset : Int → List Char → Prop
  | zulu {c : Char} (hc : c = 'Z' ∨ c = 'z') : WritesOffset 0 [c]
  | ahead {h m : Nat} {hour minute : List Char} (hhour : Digits 2 2 h hour)
    (hminute : Digits 2 2 m minute) (hh : h < 24) (hm : m < 60) :
    WritesOffset (h * 3600 + m * 60) ('+' :: (hour ++ ':' :: minute))
  | behind {c : Char} {h m : Nat} {hour minute : List Char} (hc : c = '-' ∨ c = '\u2212')
    (hhour : Digits 2 2 h hour) (hminute : Digits 2 2 m minute) (hh : h < 24) (hm : m < 60) :
    WritesOffset (-(h * 3600 + m * 60)) (c :: (hour ++ ':' :: minute))

/-- The nanoseconds that are kept of the digits behind a second. -/
def nanosOf (ds : List Char) : Nat :=
  natOfDigits (ds.take 9) * Nat.pow 10 (9 - (ds.take 9).length)

/-- Whether a text goes on neither with a digit nor with a point. -/
def EndsSecond (rest : List Char) : Prop :=
  ∀ c, rest.head? = some c → c.isDigit = false ∧ c ≠ '.'

theorem EndsSecond.nil : EndsSecond [] := nofun

theorem EndsSecond.not_point {rest : List Char} : ¬ EndsSecond ('.' :: rest) :=
  fun h => (h '.' rfl).2 rfl

theorem EndsSecond.endsDigits {rest : List Char} (h : EndsSecond rest) : EndsDigits rest :=
  fun c hc => (h c hc).1

theorem WritesOffset.endsSecond {o : Int} {cs : List Char} (h : WritesOffset o cs) :
    EndsSecond cs := by
  intro c hc
  cases h with
  | zulu hz =>
    obtain rfl := Option.some.inj hc
    rcases hz with rfl | rfl <;> decide
  | ahead =>
    obtain rfl := Option.some.inj hc
    decide
  | behind hsign =>
    obtain rfl := Option.some.inj hc
    rcases hsign with rfl | rfl <;> decide

theorem WritesOffset.ne_nil {o : Int} {cs : List Char} (h : WritesOffset o cs) : cs ≠ [] := by
  cases h <;> simp

theorem WritesFraction.endsDigits {ds cs rest : List Char} (h : WritesFraction ds cs)
    (hrest : EndsDigits rest) : EndsDigits (cs ++ rest) := by
  cases h with
  | none => exact hrest
  | digits => exact .cons (by decide) _

theorem takeNanos?_append {ds rest : List Char} (hne : ds ≠ [])
    (hdigit : ∀ c ∈ ds, c.isDigit = true) (hrest : EndsDigits rest) :
    takeNanos? (ds ++ rest) = some (nanosOf ds, rest) := by
  have hfront : ((ds ++ rest).take 9).takeWhile Char.isDigit = ds.take 9 := by
    have hsplit : ds ++ rest = ds.take 9 ++ (ds.drop 9 ++ rest) := by
      rw [← List.append_assoc, List.take_append_drop]
    rw [hsplit]
    refine takeWhile_take_append (List.length_take_le _ _)
      (fun c hc => hdigit c (List.mem_of_mem_take hc)) ?_
    by_cases hlength : 9 ≤ ds.length
    · exact .inl (by rw [List.length_take]; omega)
    · exact .inr (by rw [List.drop_eq_nil_of_le (by omega)]; exact hrest)
  have hdrop : ((ds ++ rest).drop (ds.take 9).length).dropWhile Char.isDigit = rest := by
    have hlast : (ds ++ rest).drop (ds.take 9).length = ds.drop 9 ++ rest := by
      rw [List.length_take, List.drop_append_of_le_length (by omega)]
      by_cases hlength : 9 ≤ ds.length
      · rw [Nat.min_eq_left hlength]
      · rw [Nat.min_eq_right (by omega), List.drop_length, List.drop_eq_nil_of_le (by omega)]
    rw [hlast, List.dropWhile_append_of_pos fun c hc => hdigit c (List.mem_of_mem_drop hc)]
    cases rest with
    | nil => rfl
    | cons c rest => exact List.dropWhile_cons_of_neg (by simp [hrest c rfl])
  have hsome : (ds.take 9).isEmpty = false := by
    cases ds with
    | nil => exact absurd rfl hne
    | cons c ds => rfl
  rw [takeNanos?, hfront, hsome, hdrop]
  rfl

theorem takeFraction?_append {ds cs rest : List Char} (h : WritesFraction ds cs)
    (hrest : EndsSecond rest) : takeFraction? (cs ++ rest) = some (nanosOf ds, rest) := by
  cases h with
  | none =>
    cases rest with
    | nil => rfl
    | cons c rest =>
      have hc := (hrest c rfl).2
      rw [List.nil_append, takeFraction?]
      · rfl
      · rintro tail ⟨⟩
        exact hc rfl
  | digits hne hdigit => exact takeNanos?_append hne hdigit hrest.endsDigits

theorem exists_of_takeFraction? {n : Nat} {cs rest : List Char}
    (h : takeFraction? cs = some (n, rest)) :
    ∃ ds front, cs = front ++ rest ∧ WritesFraction ds front ∧ n = nanosOf ds := by
  unfold takeFraction? at h
  split at h
  · rename_i tail
    -- the digits are the longest run, so what is read of them is known
    have hdigit : ∀ c ∈ tail.takeWhile Char.isDigit, c.isDigit = true :=
      fun c hc => List.mem_takeWhile_imp hc
    have hends : EndsDigits (tail.dropWhile Char.isDigit) := by
      intro c hc
      have hnot := List.head?_dropWhile_not Char.isDigit tail
      rw [hc] at hnot
      simpa using hnot
    have htail : tail.takeWhile Char.isDigit ++ tail.dropWhile Char.isDigit = tail :=
      List.takeWhile_append_dropWhile
    by_cases hne : tail.takeWhile Char.isDigit = []
    · have hnone : ([] : List Char).length ≤ 9 := Nat.zero_le 9
      have hempty := takeWhile_take_append hnone nofun (.inr hends)
      rw [hne, List.nil_append] at htail
      rw [htail, List.nil_append] at hempty
      rw [takeNanos?, hempty] at h
      cases h
    · have hread := takeNanos?_append hne hdigit hends
      rw [htail, h] at hread
      obtain ⟨rfl, rfl⟩ := Prod.mk.inj (Option.some.inj hread)
      exact ⟨_, _, by rw [List.cons_append, htail], .digits hne hdigit, rfl⟩
  · obtain ⟨rfl, rfl⟩ := Prod.mk.inj (Option.some.inj h)
    exact ⟨[], [], rfl, .none, rfl⟩

theorem takeOffset?_append {o : Int} {cs : List Char} (h : WritesOffset o cs) (rest : List Char) :
    takeOffset? (cs ++ rest) = some (o, rest) := by
  cases h with
  | zulu hc => exact if_pos hc
  | @ahead h m hour minute hhour hminute hh hm =>
    have hread := takeDigits?_fixed hhour (':' :: (minute ++ rest))
    have hread' := takeDigits?_fixed hminute rest
    simp [takeOffset?, hread, hread', hh, hm]
  | @behind c h m hour minute hc hhour hminute hh hm =>
    have hread := takeDigits?_fixed hhour (':' :: (minute ++ rest))
    have hread' := takeDigits?_fixed hminute rest
    rcases hc with rfl | rfl <;> simp [takeOffset?, hread, hread', hh, hm]

theorem exists_of_takeOffset? {o : Int} {cs rest : List Char}
    (h : takeOffset? cs = some (o, rest)) : ∃ front, cs = front ++ rest ∧ WritesOffset o front := by
  cases cs with
  | nil => cases h
  | cons c cs =>
    by_cases hz : c = 'Z' ∨ c = 'z'
    · rw [takeOffset?, if_pos hz] at h
      obtain ⟨rfl, rfl⟩ := Prod.mk.inj (Option.some.inj h)
      exact ⟨[c], rfl, .zulu hz⟩
    · simp only [takeOffset?, if_neg hz] at h
      split at h
      · rename_i sign hours tail hsign hhours
        split at h
        · rename_i minutes tail' hminutes
          split at h
          · rename_i hbounds
            obtain ⟨rfl, rfl⟩ := Prod.mk.inj (Option.some.inj h)
            obtain ⟨hour, rfl, hhour⟩ := exists_of_takeDigits? hhours
            obtain ⟨minute, rfl, hminute⟩ := exists_of_takeDigits? hminutes
            refine ⟨c :: (hour ++ ':' :: minute), by simp, ?_⟩
            split at hsign
            · rename_i hc
              obtain rfl := Option.some.inj hsign
              rw [hc, Int.one_mul]
              exact .ahead hhour hminute hbounds.1 hbounds.2
            · split at hsign
              · rename_i hc
                obtain rfl := Option.some.inj hsign
                rw [Int.neg_mul, Int.one_mul]
                exact .behind hc hhour hminute hbounds.1 hbounds.2
              · cases hsign
          · cases h
        · cases h
      · cases h

end RequestValidation.Calendar
