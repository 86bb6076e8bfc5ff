import RequestValidation.Proofs.Chain.Itemwise
import RequestValidation.Proofs.Chain.Queue
/-!
# Negation

A validator puts its test to the value of an occurrence, or to each item of an array, and its error
says which of them does not pass. The negated one puts the same test to the same values and says
which of them pass. So the two share out the values that are judged: each is in the errors of one of
them, and in their order.

Results:
* `checker_eq_judged`: whatever the validator, its verdicts are those of one test.
* `run_single`, `run_single_error`: what a chain of a single validator comes to.
* `negation_splits_verdicts`: what it comes to with and without negation.
-/
namespace RequestValidation

/-! ## What is judged -/

namespace Rule

/-- The values that a validator judges, given the one of an occurrence: the items of an array, if
it does not judge that as a whole. -/
def judged (r : Rule) (value : Option Json) : List (Option Json) :=
  match value with
  | some (.array items) => if r.JudgesWhole then [value] else items.map some
  | _ => [value]

theorem judged_of_judgesWhole {r : Rule} (hr : r.JudgesWhole) (value : Option Json) :
    r.judged value = [value] := by
  unfold judged
  split
  · exact if_pos hr
  · rfl

/-- A validator that judges values as a whole has a verdict for each. -/
theorem checker_of_judgesWhole {r : Rule} (hr : r.JudgesWhole) {args : Arguments}
    {check : Option Json → List Verdict} (hcheck : r.checker args = .ok check) :
    ∃ passes : Option Json → Bool, check = fun value => [⟨value, passes value⟩] := by
  simp only [JudgesWhole, List.mem_cons, List.not_mem_nil, or_false] at hr
  rcases hr with rfl | rfl | rfl | rfl | rfl
  · obtain ⟨o, -, hcheck⟩ := bind_ok_iff.mp hcheck
    obtain ⟨passes, -, hcheck⟩ := bind_ok_iff.mp hcheck
    exact ⟨passes, (Except.ok.inj hcheck).symm⟩
  · exact ⟨fun _ => true, (Except.ok.inj hcheck).symm⟩
  · obtain ⟨o, -, hcheck⟩ := bind_ok_iff.mp hcheck
    obtain ⟨passes, -, hcheck⟩ := bind_ok_iff.mp hcheck
    exact ⟨passes, (Except.ok.inj hcheck).symm⟩
  · exact ⟨fun value => value.any (·.members?.isSome), (Except.ok.inj hcheck).symm⟩
  · exact ⟨fun value => value.any (·.string?.isSome), (Except.ok.inj hcheck).symm⟩

/-- All other validators have a verdict for the text of each judged value. -/
theorem textVerdicts_eq_judged {r : Rule} (hr : ¬ r.JudgesWhole) (test : TextTest)
    (value : Option Json) :
    textVerdicts test value = (r.judged value).map fun v => ⟨v, test.passes (Json.textOf v)⟩ := by
  rcases value with _ | v
  · rfl
  · cases v with
    | array items =>
      rw [judged, if_neg hr, List.map_map]
      rfl
    | null | bool | number | string | object => rfl

/-- The verdicts of a validator are those of one test, put to each value that is judged. -/
theorem checker_eq_judged {r : Rule} {args : Arguments} {check : Option Json → List Verdict}
    (hcheck : r.checker args = .ok check) :
    ∃ passes : Option Json → Bool, ∀ value,
      check value = (r.judged value).map fun v => ⟨v, passes v⟩ := by
  by_cases hr : r.JudgesWhole
  · obtain ⟨passes, rfl⟩ := checker_of_judgesWhole hr hcheck
    refine ⟨passes, fun value => ?_⟩
    rw [judged_of_judgesWhole hr]
    rfl
  · obtain ⟨test, rfl⟩ := checker_of_not_judgesWhole hr hcheck
    exact ⟨fun value => test.passes (Json.textOf value), textVerdicts_eq_judged hr test⟩

end Rule

/-! ## What is reported -/

/-- What an error is about, whatever it says. -/
def Violation.about (e : Violation) : Location × String × Option Json :=
  (e.location, e.path, e.value)

/-- The judged values of an occurrence that are chosen, each at its place. -/
def Occurrence.reports (o : Occurrence) (r : Rule) (chosen : Option Json → Bool) :
    List (Location × String × Option Json) :=
  ((r.judged o.value).filter chosen).map fun v => (o.location, o.path, v)

/-- The errors are about the values for which the test comes out as it should not. -/
theorem about_errorsBy {v : Validation} {check : Option Json → List Verdict}
    {passes : Option Json → Bool}
    (hpasses : ∀ value, check value = (v.rule.judged value).map fun d => ⟨d, passes d⟩)
    (request : Request) (chain : Option Message) (os : List Occurrence) :
    (os.flatMap (v.errorsBy check request chain)).map Violation.about =
      os.flatMap (·.reports v.rule (passes · == v.negated)) := by
  rw [List.map_flatMap]
  refine List.flatMap_congr fun o _ => ?_
  rw [Validation.errorsBy, hpasses, List.filter_map, List.map_map, List.map_map]
  rfl

/-! ## A single validator -/

/-- The chain of a single validator for one field. -/
def Chain.single (field : String) (locations : List Location) (message : Option Message)
    (v : Validation) : Chain :=
  ⟨[field], locations, message, [.validation v], none, false⟩

section
variable {r : Rule} (field : String) (locations : List Location) (message : Option Message)

theorem rule_new (hr : r.role = .validator) (hne : r ≠ .optional) (args : Arguments) :
    (Chain.new field locations message).rule r args =
      .single field locations message ⟨r, args, false, none⟩ := by
  rw [Chain.rule_validator hr hne]
  rfl

theorem rule_not_new (hr : r.role = .validator) (hne : r ≠ .optional) (args : Arguments) :
    (Chain.new field locations message).not.rule r args =
      .single field locations message ⟨r, args, true, none⟩ := by
  rw [Chain.rule_validator hr hne]
  rfl

variable {v : Validation} (request : Request)

theorem run_single_eq :
    (Chain.single field locations message v).run request =
      (((occurrences request [field] locations).map .start).mapM
        ((Step.validation v).advance request message)).map
          (Chain.single field locations message v).outcome := by
  have htargets : (Chain.single field locations message v).targets request =
      occurrences request [field] locations := by
    simp [Chain.targets, Chain.single]
  have hsteps : ∀ walks, runSteps request message [.validation v] walks =
      walks.mapM ((Step.validation v).advance request message) := by
    intro walks
    have hlast : runSteps request message [] = pure := funext fun w => runSteps_nil _ _ w
    rw [runSteps_cons, hlast, bind_pure]
    rfl
  rw [run_eq_map, htargets]
  exact congrArg (Except.map _) (hsteps _)

/-- A validator whose arguments fit checks each occurrence. -/
theorem run_single {check : Option Json → List Verdict}
    (hcheck : v.rule.checker v.args = .ok check) :
    (Chain.single field locations message v).run request =
      .ok ⟨[field], locations,
        (occurrences request [field] locations).flatMap (v.errorsBy check request message),
        occurrences request [field] locations⟩ := by
  have hadvance : ∀ w ∈ (occurrences request [field] locations).map Walk.start,
      (Step.validation v).advance request message w =
        .ok (w.checked (v.errorsBy check request message)) := by
    intro w hw
    obtain ⟨o, -, rfl⟩ := List.mem_map.mp hw
    exact advance_checked request hcheck rfl
  rw [run_single_eq, mapM_eq_ok_map hadvance]
  simp [Except.map, Chain.outcome, Chain.single, Walk.checked, Walk.start, List.flatMap_map,
    Function.comp_def]

/-- A validator whose arguments do not fit fails on the first occurrence, if there is one. -/
theorem run_single_error {cause : ArgumentError} (hcheck : v.rule.checker v.args = .error cause) :
    (Chain.single field locations message v).run request =
      if occurrences request [field] locations = [] then .ok ⟨[field], locations, [], []⟩
      else .error ⟨v.rule, cause⟩ := by
  rw [run_single_eq]
  cases occurrences request [field] locations with
  | nil => rfl
  | cons o rest =>
    have hfault : (Step.validation v).fault? = some ⟨v.rule, cause⟩ := by
      rw [Step.fault?, hcheck]
      rfl
    have hadvance : (Step.validation v).advance request message (.start o) =
        .error ⟨v.rule, cause⟩ :=
      (advance_error_iff (s := .validation v) trivial rfl).mpr hfault
    rw [List.map_cons, List.mapM_cons, hadvance]
    rfl

end

/-! ## With and without negation -/

/-- Two runs of a validator on the same occurrences share out what it judges: either they fail with
the same fault, or the errors of the first are about the values that do not pass a test, and those
of the second about the values that do. -/
inductive SharesOut (r : Rule) (passes : Option Json → Bool) (os : List Occurrence) :
    Except InvalidArguments ChainOutcome → Except InvalidArguments ChainOutcome → Prop
  | failed (e : InvalidArguments) : SharesOut r passes os (.error e) (.error e)
  | done {plain negated : ChainOutcome} (hplain : plain.data = os) (hnegated : negated.data = os)
      (hfail : plain.errors.map Violation.about = os.flatMap (·.reports r (!passes ·)))
      (hpass : negated.errors.map Violation.about = os.flatMap (·.reports r passes)) :
      SharesOut r passes os (.ok plain) (.ok negated)

/-- **Negation splits the verdicts.** For every validator but the optional one and all arguments
there is a test such that in every request the chain of that validator alone and the chain with the
validator negated either fail with the same fault or both succeed, and then they share out the
judged values by that test. -/
theorem negation_splits_verdicts {r : Rule} (hr : r.role = .validator) (hne : r ≠ .optional)
    (args : Arguments) :
    ∃ passes : Option Json → Bool, ∀ field locations message request,
      SharesOut r passes (occurrences request [field] locations)
        (((Chain.new field locations message).rule r args).run request)
        (((Chain.new field locations message).not.rule r args).run request) := by
  cases hcheck : r.checker args with
  | error cause =>
    refine ⟨fun _ => true, fun field locations message request => ?_⟩
    rw [rule_new field locations message hr hne, rule_not_new field locations message hr hne,
      run_single_error _ _ _ _ hcheck, run_single_error _ _ _ _ hcheck]
    split
    · rename_i hnone
      rw [hnone]
      exact .done rfl rfl rfl rfl
    · exact .failed _
  | ok check =>
    obtain ⟨passes, hpasses⟩ := Rule.checker_eq_judged hcheck
    refine ⟨passes, fun field locations message request => ?_⟩
    rw [rule_new field locations message hr hne, rule_not_new field locations message hr hne,
      run_single _ _ _ _ hcheck, run_single _ _ _ _ hcheck]
    have hplain := @about_errorsBy ⟨r, args, false, none⟩ check passes hpasses request message
    have hnegated := @about_errorsBy ⟨r, args, true, none⟩ check passes hpasses request message
    simp only [beq_false, beq_true] at hplain hnegated
    exact .done rfl rfl (hplain _) (hnegated _)

/-- A body with an array of two texts, an empty array and no value at all. -/
def mixedTags : Request where
  body := .object [("tags", .array [.string "a", .array [], .string "b", .null])]

/-- A check for a text reports all items but the one that has it, and the negated check just that
one. -/
theorem equals_splits_tags :
    Rule.equals.role = .validator ∧ Rule.equals ≠ .optional ∧
      (∃ passes : Option Json → Bool,
        SharesOut .equals passes (occurrences mixedTags ["tags"] [.body])
          (((Chain.new "tags" [.body] none).rule .equals [.string "a"]).run mixedTags)
          (((Chain.new "tags" [.body] none).not.rule .equals [.string "a"]).run mixedTags)) ∧
      (((Chain.new "tags" [.body] none).rule .equals [.string "a"]).run mixedTags).map
          (fun outcome => outcome.errors.map (·.value)) =
        .ok [some (.array []), some (.string "b"), some .null] ∧
      (((Chain.new "tags" [.body] none).not.rule .equals [.string "a"]).run mixedTags).map
          (fun outcome => outcome.errors.map (·.value)) =
        .ok [some (.string "a")] := by
  have hr : Rule.equals.role = .validator := rfl
  have hne : Rule.equals ≠ .optional := by decide
  obtain ⟨passes, hshares⟩ := negation_splits_verdicts hr hne [.string "a"]
  exact ⟨hr, hne, ⟨passes, hshares "tags" [.body] none mixedTags⟩, rfl, rfl⟩

end RequestValidation
