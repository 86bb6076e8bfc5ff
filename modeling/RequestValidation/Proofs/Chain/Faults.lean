import RequestValidation.Proofs.Chain.Progress
/-!
# Faults of chains

Whether the arguments of a rule fit is found before a value is looked at. So a chain of checks and
changes alone, without conditions and bails, fails in every request in which it has something to
work on, or in none, and always with the fault of its first step that has one.

Results:
* `advance_error_iff`: what makes a step fail.
* `runSteps_error_iff`, `run_error_iff`: a chain of rules fails with the first fault of its steps.
* `faults_independent_of_request`: no request changes the fault.
-/
namespace RequestValidation

/-- The fault that a rule gets the blame for. -/
def Rule.blamed? {α : Type} (r : Rule) : Except ArgumentError α → Option InvalidArguments
  | .error cause => some ⟨r, cause⟩
  | .ok _ => none

namespace Step

/-- The fault in the arguments of a step, found without a value. -/
def fault? : Step → Option InvalidArguments
  | .validation v => v.rule.blamed? (v.rule.checker v.args)
  | .sanitization s => s.rule.blamed? (Change.ofRule s.rule s.args)
  | .condition _ => none
  | .bail => none

/-- Whether a step applies a rule, be it a check or a change. -/
def AppliesRule : Step → Prop
  | .validation _ => True
  | .sanitization _ => True
  | .condition _ => False
  | .bail => False

end Step

/-- What is done with a value fails with one fault of the rule, whatever the value is, or never. -/
def FailsAlike {α : Type} (r : Rule) (judge : Option Json → Except InvalidArguments α) : Prop :=
  ∀ v w e, (judge v = .error e ↔ judge w = .error e) ∧ (judge v = .error e → e.rule = r)

theorem Rule.blamed?_eq_some_iff {α : Type} {r : Rule} {result : Except ArgumentError α}
    {e : InvalidArguments} :
    r.blamed? result = some e ↔ ∃ cause, result = .error cause ∧ e = ⟨r, cause⟩ := by
  cases result <;> simp [Rule.blamed?, eq_comm]

theorem blame_error_iff {α : Type} {r : Rule} {result : Except ArgumentError α}
    {e : InvalidArguments} :
    Walk.blame r result = .error e ↔ ∃ cause, result = .error cause ∧ e = ⟨r, cause⟩ := by
  unfold Walk.blame
  delta Except.mapError
  cases result <;> simp [eq_comm]

/-- A rule whose failure is settled by its arguments fails alike on all values. -/
theorem failsAlike_of_causes {α β : Type} {r : Rule} {judge : Option Json → Except ArgumentError α}
    {reading : Except ArgumentError β}
    (h : ∀ v cause, judge v = .error cause ↔ reading = .error cause) :
    FailsAlike r fun value => Walk.blame r (judge value) := by
  intro v w e
  simp only [blame_error_iff, h, true_and]
  rintro ⟨cause, -, rfl⟩
  rfl

section
variable {request : Request} {chain : Option Message}

theorem complaints_error_iff {v : Validation} {o : Occurrence} {e : InvalidArguments} :
    v.complaints request chain o = .error e ↔ (Step.validation v).fault? = some e := by
  rw [Step.fault?, Rule.blamed?_eq_some_iff]
  simp only [← Rule.verdicts_error_iff (v := o.value)]
  unfold Validation.complaints
  cases v.rule.verdicts v.args o.value <;> simp [eq_comm]

theorem sanitized_error_iff {s : Sanitization} {o : Occurrence} {e : InvalidArguments} :
    s.sanitized o = .error e ↔ (Step.sanitization s).fault? = some e := by
  rw [Step.fault?, Rule.blamed?_eq_some_iff]
  simp only [← Rule.change_error_iff (v := o.value)]
  unfold Sanitization.sanitized
  cases s.rule.change s.args o.value <;> simp [eq_comm]

/-- A rule fails on a walk that is going just if its arguments are faulty. -/
theorem advance_error_iff {s : Step} (hs : s.AppliesRule) {w : Walk} (hw : w.stopped = false)
    {e : InvalidArguments} :
    s.advance request chain w = .error e ↔ s.fault? = some e := by
  have hgoing : ¬ w.stopped = true := by simp [hw]
  cases s with
  | validation v =>
    rw [Step.advance, if_neg hgoing, validate_eq, map_error_iff, complaints_error_iff]
  | sanitization s =>
    rw [Step.advance, if_neg hgoing, change_eq, map_error_iff, sanitized_error_iff]
  | condition c => exact absurd hs id
  | bail => exact absurd hs id

/-- A rule stops no walk. -/
theorem Step.Takes.going {s : Step} {w w' : Walk} (h : s.Takes request chain w w')
    (hs : s.AppliesRule) (hw : w.stopped = false) : w'.stopped = false := by
  cases hw' : w'.stopped with
  | false => rfl
  | true =>
    obtain ⟨c, rfl, -⟩ := h.stops hw hw'
    exact absurd hs id

/-- Rules fail on walks that are going just with the first fault among them. -/
theorem runSteps_error_iff {steps : List Step} (hsteps : ∀ s ∈ steps, s.AppliesRule)
    {walks : List Walk} (hne : walks ≠ []) (hgoing : ∀ w ∈ walks, w.stopped = false)
    {e : InvalidArguments} :
    runSteps request chain steps walks = .error e ↔ steps.findSome? Step.fault? = some e := by
  -- by induction on the steps: each leaves walks behind that are going
  induction steps generalizing walks with
  | nil => simp [runSteps_nil]
  | cons s rest ih =>
    have hs : s.AppliesRule := hsteps s List.mem_cons_self
    have hbail : ¬ (s.isBail && anyErrors walks) = true := by
      cases s with
      | bail => exact absurd hs id
      | _ => simp [Step.isBail]
    obtain ⟨w, hw⟩ := List.exists_mem_of_ne_nil walks hne
    rw [runSteps_cons, if_neg hbail, List.findSome?_cons]
    cases hm : walks.mapM (s.advance request chain) with
    | error e' =>
      obtain ⟨w', hw', he'⟩ := exists_of_mapM_error hm
      rw [(advance_error_iff hs (hgoing w' hw')).mp he']
      simp [bind, Except.bind]
    | ok next =>
      have hfault : s.fault? = none := by
        refine Option.eq_none_iff_forall_ne_some.mpr fun e' he' => ?_
        obtain ⟨w', -, hok⟩ := exists_of_mapM_ok hm hw
        rw [(advance_error_iff hs (hgoing w hw)).mpr he'] at hok
        cases hok
      have htakes := mapM_advance_eq_ok_iff.mp hm
      rw [hfault]
      refine ih (fun t ht => hsteps t (List.mem_cons_of_mem s ht)) ?_ fun w' hw' => ?_
      · rintro rfl
        exact hne (List.forall₂_nil_right_iff.mp htakes)
      · obtain ⟨w, hw, htake⟩ := exists_of_forall₂ htakes.flip hw'
        exact htake.going hs (hgoing w hw)

end

/-- Whether all steps of a chain are checks and changes. -/
def Chain.OnlyRules (c : Chain) : Prop := ∀ s ∈ c.steps, s.AppliesRule

/-- A chain of rules that has something to work on fails just with the first fault of its steps. -/
theorem run_error_iff {c : Chain} (hc : c.OnlyRules) {request : Request}
    (htargets : c.targets request ≠ []) {e : InvalidArguments} :
    c.run request = .error e ↔ c.steps.findSome? Step.fault? = some e := by
  have hne : (c.targets request).map Walk.start ≠ [] := by simpa using htargets
  have hgoing : ∀ w ∈ (c.targets request).map Walk.start, w.stopped = false := by
    intro w hw
    obtain ⟨o, -, rfl⟩ := List.mem_map.mp hw
    rfl
  have hsteps : runSteps request c.message c.steps ((c.targets request).map Walk.start) =
      .error e ↔ c.steps.findSome? Step.fault? = some e := runSteps_error_iff hc hne hgoing
  rw [run_eq_map, map_error_iff, hsteps]

/-- **Faults come from the schema.** A rule fails on every value with the same fault, which names
that rule, or on none. So of two requests in which a chain of rules has something to work on, it
fails in both or in neither, and if it does, with the first fault of its steps. -/
theorem faults_independent_of_request :
    (∀ (r : Rule) (args : Arguments),
      FailsAlike r fun value => Walk.blame r (r.verdicts args value)) ∧
    (∀ (r : Rule) (args : Arguments),
      FailsAlike r fun value => Walk.blame r (r.change args value)) ∧
    ∀ c : Chain, c.OnlyRules → ∀ request request' : Request,
      c.targets request ≠ [] → c.targets request' ≠ [] → ∀ e,
        (c.run request = .error e ↔ c.run request' = .error e) ∧
          (c.run request = .error e ↔ c.steps.findSome? Step.fault? = some e) := by
  refine ⟨fun r args => ?_, fun r args => ?_, fun c hc request request' h h' e => ?_⟩
  · exact failsAlike_of_causes fun v cause => Rule.verdicts_error_iff
  · exact failsAlike_of_causes fun v cause => Rule.change_error_iff
  · rw [run_error_iff hc h, run_error_iff hc h']
    exact ⟨Iff.rfl, Iff.rfl⟩

/-- A chain whose second step has no list to look in, and whose third has no possible radix. -/
def wantsListed : Chain where
  fields := ["tag"]
  locations := [.body]
  message := none
  steps := [.sanitization ⟨.trim, []⟩, .validation ⟨.isIn, [], false, none⟩,
    .sanitization ⟨.toInt, [.string "99"]⟩]
  optional := some .falsy
  negateNext := false

/-- Without a list to look in the check fails on an empty array as it does on no value, and so does
the chain wherever its field counts as present; a bad radix fails on no value as it does on one. -/
theorem wantsListed_fails_alike :
    Walk.blame .isIn (Rule.isIn.verdicts [] (some (.array []))) =
        .error ⟨.isIn, .required 1⟩ ∧
      Walk.blame .toInt (Rule.toInt.change [.string "99"] none) =
        .error ⟨.toInt, .radix "99"⟩ ∧
      wantsListed.OnlyRules ∧
      wantsListed.targets { body := .object [("tag", .string " a ")] } ≠ [] ∧
      wantsListed.targets { body := .object [("tag", .array [])] } ≠ [] ∧
      wantsListed.run { body := .object [("tag", .string " a ")] } =
        .error ⟨.isIn, .required 1⟩ ∧
      wantsListed.run { body := .object [("tag", .array [])] } = .error ⟨.isIn, .required 1⟩ := by
  obtain ⟨hcheck, hchange, hchain⟩ := faults_independent_of_request
  have hrules : wantsListed.OnlyRules := by
    intro s hs
    simp only [wantsListed, List.mem_cons, List.not_mem_nil, or_false] at hs
    rcases hs with rfl | rfl | rfl <;> trivial
  have htext : wantsListed.targets { body := .object [("tag", .string " a ")] } ≠ [] := by decide
  have harray : wantsListed.targets { body := .object [("tag", .array [])] } ≠ [] := by decide
  have h := hchain wantsListed hrules _ _ htext harray ⟨.isIn, .required 1⟩
  have hsome : Walk.blame .toInt (Rule.toInt.change [.string "99"] (some (.int 7))) =
      .error ⟨.toInt, .radix "99"⟩ := rfl
  exact ⟨(hcheck .isIn [] none _ _).1.mp rfl, (hchange .toInt _ _ none _).1.mp hsome, hrules, htext,
    harray, h.2.mpr rfl, h.1.mp (h.2.mpr rfl)⟩

end RequestValidation
