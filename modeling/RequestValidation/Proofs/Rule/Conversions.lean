import RequestValidation.Proofs.Rule.Integers
import RequestValidation.Proofs.Rule.Numbers
/-!
# Conversion of what the numeric rules accept

A text that a numeric validator accepts is read by the sanitizer to its end. It becomes a number as
long as binary64 has one: no document can hold an infinity, so what is beyond the largest finite
number becomes null.

Results:
* `floatValue_of_writes`, `integerValue_of_whole`: what becomes of a numeral and of a whole number.
* `accepted_numbers_convert`: which of the accepted texts become a number.
-/
namespace RequestValidation.Rule

open Radix
open Extended64 (overflowExponent overflowBound)

variable {args args' : Arguments} {t : String}

/-! ## Decimal numbers -/

theorem change_toFloat (args : Arguments) (t : String) :
    toFloat.change args (some (.string t)) = .ok (some (Change.floatValue t.toList)) := rfl

/-- A numeral is read from the first character to the last. -/
theorem floatValue_of_writes {n : Numeral} {cs : List Char} (h : n.Writes cs) :
    Change.floatValue cs = Json.ofOption (fun x => .number (.float x)) n.value.finite? := by
  have htrim : Text.trimStart Text.isBlank ([] ++ cs) = cs :=
    Text.trimStart_margin nofun fun c hc => h.not_blank c (List.mem_of_mem_head? hc)
  rw [List.nil_append] at htrim
  rw [Change.floatValue, htrim, Numeral.readPrefix?_written h]

/-- What a sanitizer makes of a value: a number under a condition, and otherwise null. -/
structure NumberJust (result : Except ArgumentError (Option Json)) (fits : Prop) : Prop where
  number : fits → ∃ n, result = .ok (some (.number n))
  null : ¬ fits → result = .ok (some .null)

theorem toFloat_of_writes {n : Numeral} (h : n.Writes t.toList) :
    NumberJust (toFloat.change args (some (.string t))) (n.magnitude < overflowBound) := by
  rw [change_toFloat, floatValue_of_writes h, ← n.value_finite_iff]
  constructor
  · rintro ⟨x, hx⟩
    exact ⟨.float x, by rw [hx]; rfl⟩
  · intro hnot
    cases hvalue : n.value with
    | finite x => exact absurd ⟨x, hvalue⟩ hnot
    | nan => rfl
    | infinite negative => rfl

/-! ## Whole numbers -/

theorem radix?_of_no_argument (h : args.get? 0 = none) : Change.radix? args = .ok none := by
  simp [Change.radix?, Arguments.text?, h, bind, Except.bind]

theorem integerValue_of_whole {negative : Bool} {ds cs : List Char}
    (h : WritesWhole negative ds cs) :
    Change.integerValue none cs =
      match Leading.of negative (accumulate 10 (ds.map decimalValue)) with
      | .int i => .int i
      | .float x => .number (.float x)
      | .tooLarge => .null := by
  obtain ⟨r, hnegative, hbase, hdigits⟩ := exists_reading_of_whole h
  obtain ⟨-, hds⟩ := h
  have hsome : r.digits ≠ [] := by
    rw [hdigits]
    exact mt List.map_eq_nil_iff.mp hds.ne_nil
  rw [Change.integerValue, r.leadingInteger?_eq, if_neg hsome, hnegative, hbase, hdigits]
  cases Leading.of negative (accumulate 10 (ds.map decimalValue)) <;> rfl

theorem toInt_of_whole {negative : Bool} {ds : List Char} {total : Nat}
    (hargs : args.get? 0 = none) (h : WritesWhole negative ds t.toList)
    (htotal : Accrues 10 (ds.map decimalValue) total) :
    NumberJust (toInt.change args (some (.string t))) (total < 2 ^ overflowExponent) := by
  rw [change_toInt (radix?_of_no_argument hargs), integerValue_of_whole h, accrues_iff.mp htotal]
  have hlarge := @Leading.of_eq_tooLarge_iff negative total
  rw [← Nat.not_lt] at hlarge
  constructor
  · intro hlt
    cases hof : Leading.of negative total with
    | int i => exact ⟨.int i, rfl⟩
    | float x => exact ⟨.float x, rfl⟩
    | tooLarge => exact absurd hlt (hlarge.mp hof)
  · intro hnot
    rw [hlarge.mpr hnot]

theorem accumulate_lt_of_short {negative : Bool} {ds cs : List Char}
    (h : WritesWhole negative ds cs) (hlength : cs.length ≤ safeLength) :
    accumulate 10 (ds.map decimalValue) < 2 ^ overflowExponent := by
  obtain ⟨hsign, hds⟩ := h
  refine accumulate_lt_overflow ?_ ?_
  · simp only [List.mem_map, forall_exists_index, and_imp, forall_apply_eq_imp_iff₂]
    exact fun c hc => digit_lt (hds.isDigit c hc)
  · rw [List.length_append] at hlength
    rw [List.length_map]
    omega

/-! ## Accepted texts -/

/-- What the sanitizers make of the texts that the numeric validators accept. -/
structure AcceptedConvert (t : String) : Prop where
  int : ∀ args args', isInt.Accepts args t → args'.get? 0 = none →
    ∃ negative ds total, WritesWhole negative ds t.toList ∧
      Accrues 10 (ds.map decimalValue) total ∧
      NumberJust (toInt.change args' (some (.string t))) (total < 2 ^ overflowExponent)
  int_of_short : ∀ args args', isInt.Accepts args t → args'.get? 0 = none →
    t.length ≤ safeLength → ∃ n, toInt.change args' (some (.string t)) = .ok (some (.number n))
  float : ∀ args args', isFloat.Accepts args t →
    ∃ n : Numeral, n.Writes t.toList ∧
      NumberJust (toFloat.change args' (some (.string t))) (n.magnitude < overflowBound)

/-- **Accepted numbers convert**, for every text and all arguments of the validators: to a number
just if binary64 has a finite one for it, and to null otherwise. -/
theorem accepted_numbers_convert (t : String) : AcceptedConvert t where
  int args args' haccepts hargs := by
    obtain ⟨-, -, -, -, negative, ds, hwhole, -, -⟩ := accepts_isInt_iff.mp haccepts
    have htotal := accrues_iff.mpr (rfl : accumulate 10 (ds.map decimalValue) = _)
    exact ⟨negative, ds, _, hwhole, htotal, toInt_of_whole hargs hwhole htotal⟩
  int_of_short args args' haccepts hargs hlength := by
    obtain ⟨-, -, -, -, negative, ds, hwhole, -, -⟩ := accepts_isInt_iff.mp haccepts
    have htotal := accrues_iff.mpr (rfl : accumulate 10 (ds.map decimalValue) = _)
    refine (toInt_of_whole hargs hwhole htotal).number ?_
    rw [← String.length_toList] at hlength
    exact accumulate_lt_of_short hwhole hlength
  float args args' haccepts := by
    obtain ⟨-, -, -, -, n, hwrites, -⟩ := accepts_isFloat_iff.mp haccepts
    exact ⟨n, hwrites, toFloat_of_writes hwrites⟩

/-- The digits of a number just beyond binary64. -/
def vastDigits : List Char := '1' :: List.replicate 309 '0'

/-- Both validators accept numbers beyond binary64, and both sanitizers make null of them. -/
theorem vast_numbers_become_null :
    (isInt.Accepts [] (String.ofList vastDigits) ∧
      toInt.change [] (some (.string (String.ofList vastDigits))) = .ok (some .null)) ∧
    isFloat.Accepts [] "1e999" ∧ toFloat.change [] (some (.string "1e999")) = .ok (some .null) := by
  have hall : vastDigits.all Char.isDigit = true := by decide +kernel
  have hread : leadingInteger? none (Text.trimStart Text.isBlank vastDigits) = some .tooLarge := by
    decide +kernel
  have hdigits : DigitRun vastDigits := ⟨List.cons_ne_nil _ _, List.all_eq_true.mp hall⟩
  refine ⟨⟨?_, ?_⟩, rfl, rfl⟩
  · rw [isInt_language rfl (fun _ _ => rfl), String.toList_ofList]
    exact ⟨_, _, hdigits.writesWhole, .inl rfl⟩
  · rw [change_toInt rfl, String.toList_ofList, Change.integerValue, hread]

end RequestValidation.Rule
