import RequestValidation.Proofs.Decimal.Accrual
import RequestValidation.Rule.Change
/-!
# Conversion to integers

The sanitizer for integers writes the integer in front of a text if its digits accrue to it. They
are rounded to 53 bits one by one, so small numbers are exact and long ones are off by what was lost
on the way. The largest integer of 64 bits has no binary64 number of its own: the power of two
behind it stands for it.

Results:
* `change_toInt`, `integerValue_eq_int_iff`: what the sanitizer makes of a text goes by the reading.
* `toInt_eq_integer_iff`: when an integer is exact.
* `toInt_readings`: the conversion of every text.
-/
namespace RequestValidation.Rule

open Radix

variable {args : Arguments} {radix : Option Nat} {t : String}

theorem change_toInt (hradix : Change.radix? args = .ok radix) (t : String) :
    toInt.change args (some (.string t)) = .ok (some (Change.integerValue radix t.toList)) := by
  simp [change, Change.ofRule, hradix, bind, Except.bind, Change.applyTo, Change.apply,
    Json.text_string]

theorem integerValue_of_no_digits (r : Reading radix t.toList) (h : r.digits = []) :
    Change.integerValue radix t.toList = .null := by
  rw [Change.integerValue, r.leadingInteger?_eq, if_pos h]

theorem integerValue_eq_int_iff (r : Reading radix t.toList) (h : r.digits ≠ []) {i : Int} :
    Change.integerValue radix t.toList = .int i ↔
      Leading.of r.negative (accumulate r.base r.digits) = .int i := by
  rw [Change.integerValue, r.leadingInteger?_eq, if_neg h]
  cases Leading.of r.negative (accumulate r.base r.digits) <;> simp [Json.int]

/-- An integer of 64 bits is written just if its digits accrue to it. -/
theorem toInt_eq_integer_iff (hradix : Change.radix? args = .ok radix)
    (r : Reading radix t.toList) (hsome : r.digits ≠ []) (hfits : FitsInt64 r.integer) :
    toInt.change args (some (.string t)) = .ok (some (.int r.integer)) ↔
      ∃ total, Accrues r.base r.digits total ∧
        (total = r.number ∨ r.integer = maxInt ∧ total = 2 ^ 63) := by
  rw [change_toInt hradix, Except.ok.injEq, Option.some.injEq, integerValue_eq_int_iff r hsome,
    Leading.of_eq_int_iff]
  simp only [accrues_iff, exists_eq_left']
  generalize accumulate r.base r.digits = total
  rw [maxInt_eq]
  unfold FitsInt64 Reading.integer withSign at *
  split at hfits
  · rename_i hneg
    simp only [if_pos hneg]
    omega
  · rename_i hneg
    simp only [if_neg hneg]
    omega

/-- What the sanitizer makes of a text by the way it is read: null without digits, and of an integer
of 64 bits itself just if its digits accrue to it. Small numbers always do, and in a base that is a
power of two those of at most 53 significant bits; longer ones never do, but for the last one. -/
structure Converted (args : Arguments) (t : String) (r : Reading radix t.toList) : Prop where
  null : r.digits = [] → toInt.change args (some (.string t)) = .ok (some .null)
  exact_iff : r.digits ≠ [] → FitsInt64 r.integer →
    (toInt.change args (some (.string t)) = .ok (some (.int r.integer)) ↔
      ∃ total, Accrues r.base r.digits total ∧
        (total = r.number ∨ r.integer = maxInt ∧ total = 2 ^ 63))
  exact_of_small : r.digits ≠ [] → r.number < 2 ^ 53 →
    toInt.change args (some (.string t)) = .ok (some (.int r.integer))
  exact_of_precise : ∀ k, r.base = 2 ^ k → r.digits ≠ [] → FitsInt64 r.integer →
    Precise r.number → toInt.change args (some (.string t)) = .ok (some (.int r.integer))
  precise_of_exact : r.digits ≠ [] → FitsInt64 r.integer →
    toInt.change args (some (.string t)) = .ok (some (.int r.integer)) →
      Precise r.number ∨ r.integer = maxInt

/-- **Where the conversion to integers is exact**, for every text and every radix. -/
theorem toInt_readings (hradix : Change.radix? args = .ok radix) (t : String) :
    Nonempty (Reading radix t.toList) ∧ ∀ r : Reading radix t.toList, Converted args t r := by
  refine ⟨nonempty_reading radix t.toList, fun r => ⟨?_, ?_, ?_, ?_, ?_⟩⟩
  · intro hnone
    rw [change_toInt hradix, integerValue_of_no_digits r hnone]
  · exact toInt_eq_integer_iff hradix r
  · intro hsome hsmall
    have hfits : FitsInt64 r.integer := by
      unfold FitsInt64 Reading.integer withSign
      split <;> omega
    have hbase : 0 < r.base := by
      obtain ⟨d, hd⟩ := List.exists_mem_of_ne_nil _ hsome
      exact Nat.lt_of_le_of_lt (Nat.zero_le d) (r.digit_lt d hd)
    exact (toInt_eq_integer_iff hradix r hsome hfits).mpr
      ⟨r.number, accrues_of_lt hbase hsmall, .inl rfl⟩
  · intro k hbase hsome hfits hprecise
    have haccrues : Accrues r.base r.digits r.number := by
      have hlt := r.digit_lt
      unfold Reading.number at hprecise ⊢
      rw [hbase] at hlt hprecise ⊢
      exact accrues_of_precise hlt hprecise
    exact (toInt_eq_integer_iff hradix r hsome hfits).mpr ⟨r.number, haccrues, .inl rfl⟩
  · intro hsome hfits hexact
    obtain ⟨total, haccrues, rfl | ⟨hlast, -⟩⟩ :=
      (toInt_eq_integer_iff hradix r hsome hfits).mp hexact
    · exact .inl haccrues.precise
    · exact .inr hlast

/-- A text with every part of a reading. -/
def markedText : Reading none " -0x1Agb".toList where
  blanks := [' ']
  sign := ['-']
  mark := ['0', 'x']
  run := ['1', 'A']
  rest := ['g', 'b']
  negative := true
  base := 16
  digits := [1, 10]
  text := rfl
  blank := List.forall_mem_singleton.mpr rfl
  blanks_longest := by rintro _ ⟨⟩; rfl
  writesSign := .minus
  sign_longest := nofun
  base_eq := .inr ⟨⟨.inl rfl, .inl rfl⟩, rfl⟩
  mark_longest := nofun
  stands := .cons ⟨by decide, rfl⟩ (.cons ⟨by decide, rfl⟩ .nil)
  run_longest := by
    rintro _ ⟨⟩ d hd
    have hnone : digit? 16 'g' = none := rfl
    rw [digit?_eq_some_iff.mpr hd] at hnone
    cases hnone

/-- The mark is left out, the sign is kept, and reading stops in front of the `g`. -/
theorem marked_text_exact :
    Change.radix? [] = .ok none ∧
      toInt.change [] (some (.string " -0x1Agb")) = .ok (some (.int (-26))) :=
  ⟨rfl, ((toInt_readings rfl " -0x1Agb").2 markedText).exact_of_small (List.cons_ne_nil _ _)
    (by decide)⟩

/-- The first integer that has more than 53 significant bits becomes another one. -/
theorem long_integer_rounded :
    ∃ r : Reading none "9007199254740993".toList, r.digits ≠ [] ∧
      r.integer = 9007199254740993 ∧
      toInt.change [] (some (.string "9007199254740993")) =
        .ok (some (.int 9007199254740992)) := by
  have hall : "9007199254740993".toList.all Char.isDigit = true := by decide +kernel
  have hvalue : natOfDigits "9007199254740993".toList = 9007199254740993 := by decide +kernel
  have hread : leadingInteger? none (Text.trimStart Text.isBlank "9007199254740993".toList) =
      some (.int 9007199254740992) := by decide +kernel
  have hdigits : DigitRun "9007199254740993".toList :=
    ⟨List.cons_ne_nil _ _, List.all_eq_true.mp hall⟩
  obtain ⟨r, hnegative, hbase, hrun⟩ := exists_reading_of_whole hdigits.writesWhole
  refine ⟨r, ?_, ?_, ?_⟩
  · rw [hrun]
    exact List.cons_ne_nil _ _
  · rw [Reading.integer, Reading.number, hnegative, hbase, hrun, ofDigits_decimalValue, hvalue]
    rfl
  · rw [change_toInt rfl, Change.integerValue, hread]

end RequestValidation.Rule
