import Mathlib.Data.List.Basic
import RequestValidation.Proofs.Rule.Faults
import RequestValidation.Proofs.Traversal
/-!
# Items of arrays

All sanitizers and most validators treat an array by treating its items, each as its text. A few
validators judge a value as a whole, even if it is an array.

Results:
* `Change.applyTo_array`, `textVerdicts_array`: what is done to an array is done to its items.
* `isItem_apply`: what is made of a text is no array.
* `checker_eq_textVerdicts`: the validators that do not judge a value as a whole test texts.
-/
namespace RequestValidation

/-- A value that is no array. -/
def Json.IsItem (v : Json) : Prop := ∀ vs, v ≠ .array vs

namespace Change

variable {change : Change}

theorem applyTo_item {v : Json} (hv : v.IsItem) : change.applyTo v = change.apply v.text := by
  cases v with
  | array vs => exact absurd rfl (hv vs)
  | null | bool | number | string | object => rfl

/-- A sanitizer changes an array item by item. -/
theorem applyTo_array {vs : List Json} (hvs : ∀ v ∈ vs, v.IsItem) :
    change.applyTo (.array vs) = .array (vs.map change.applyTo) := by
  have hmap : vs.map change.applyTo = vs.map fun v => change.apply v.text :=
    List.map_congr_left fun v hv => applyTo_item (hvs v hv)
  rw [hmap, applyTo]

/-- What is made of a text is no array. -/
theorem isItem_apply (s : String) : (change.apply s).IsItem := by
  intro vs
  cases change with
  | trim | escape | lower | upper | remove | keep | toBoolean => exact Json.noConfusion
  | toInt radix =>
    rw [apply, integerValue]
    split <;> exact Json.noConfusion
  | toFloat =>
    rw [apply, floatValue]
    split
    · rename_i n _ _
      cases n.value.finite? <;> exact Json.noConfusion
    · exact Json.noConfusion
  | toDate =>
    rw [apply]
    cases Calendar.moment? s <;> exact Json.noConfusion

end Change

namespace Rule

/-- The validators that judge a value as a whole, even if it is an array. -/
def JudgesWhole (r : Rule) : Prop := r ∈ [present, optional, isArray, isObject, isString]

instance : DecidablePred JudgesWhole := fun r =>
  inferInstanceAs (Decidable (r ∈ [present, optional, isArray, isObject, isString]))

/-- All other validators test texts. -/
theorem checker_eq_textVerdicts {r : Rule} (hr : ¬ r.JudgesWhole) (args : Arguments) :
    r.checker args = if r.checks then (TextTest.ofRule r args).map textVerdicts
      else .error .sanitizerAsValidator := by
  unfold checker
  split
  · exact absurd (by decide) hr
  · exact absurd (by decide) hr
  · exact absurd (by decide) hr
  · exact absurd (by decide) hr
  · exact absurd (by decide) hr
  · rfl

theorem checker_of_not_judgesWhole {r : Rule} (hr : ¬ r.JudgesWhole) {args : Arguments}
    {check : Option Json → List Verdict} (hcheck : r.checker args = .ok check) :
    ∃ test, check = textVerdicts test := by
  rw [checker_eq_textVerdicts hr] at hcheck
  split at hcheck
  · obtain ⟨test, -, rfl⟩ := map_ok_iff.mp hcheck
    exact ⟨test, rfl⟩
  · cases hcheck

theorem textVerdicts_item (test : TextTest) {v : Json} (hv : v.IsItem) :
    textVerdicts test (some v) = [⟨some v, test.passes v.text⟩] := by
  cases v with
  | array vs => exact absurd rfl (hv vs)
  | null | bool | number | string | object => rfl

/-- A test of texts judges an array item by item. -/
theorem textVerdicts_array (test : TextTest) {vs : List Json} (hvs : ∀ v ∈ vs, v.IsItem) :
    textVerdicts test (some (.array vs)) = vs.flatMap fun v => textVerdicts test (some v) := by
  have hmap : (vs.flatMap fun v => textVerdicts test (some v)) =
      vs.flatMap fun v => [⟨some v, test.passes v.text⟩] :=
    List.flatMap_congr fun v hv => textVerdicts_item test (hvs v hv)
  rw [hmap, textVerdicts]
  exact List.map_eq_flatMap

end Rule

end RequestValidation
