import RequestValidation.Chain.Run
/-!
# Faults in arguments

The arguments of a rule are understood before any value is looked at, so whether they fit, and
what is wrong with them if not, is the same for every value.

Results:
* `verdicts_eq_map`: the verdicts are those of one check that the arguments give, or its fault.
* `verdicts_error_iff`, `change_error_iff`: a value is judged in vain just if the arguments are
  faulty.
* `verdicts_error`, `change_error`: a fault found with one value is found with every other.
-/
namespace RequestValidation.Rule

/-- The test for presence, in the sense that the options ask for. -/
def presenceTest (o : Options) : Except ArgumentError (Option Json → Bool) := do
  if ← o.flag "checkFalsy" then .ok fun value => !Json.isFalsy value
  else if ← o.flag "checkNull" then .ok fun value => value.any (!·.isNull)
  else .ok Option.isSome

/-- The test for an array of a size that the options allow. -/
def sizeTest (o : Options) : Except ArgumentError (Option Json → Bool) := do
  let min ← o.bound? "min"
  let max ← o.bound? "max"
  .ok fun
    | some (.array items) => Bounds.contains ⟨min, max, none, none⟩ (.ofInt items.length)
    | _ => false

/-- The check that a validator makes, its arguments understood. No value is looked at for it. -/
def checker (r : Rule) (args : Arguments) : Except ArgumentError (Option Json → List Verdict) :=
  match r with
  | present => do
    let test ← presenceTest (← args.options 0)
    .ok fun value => [⟨value, test value⟩]
  | optional => .ok fun value => [⟨value, true⟩]
  | isArray => do
    let test ← sizeTest (← args.options 0)
    .ok fun value => [⟨value, test value⟩]
  | isObject => .ok fun value => [⟨value, value.any (·.members?.isSome)⟩]
  | isString => .ok fun value => [⟨value, value.any (·.string?.isSome)⟩]
  | r =>
    if r.checks then (TextTest.ofRule r args).map textVerdicts
    else .error .sanitizerAsValidator

theorem isPresent_eq_map (o : Options) (value : Option Json) :
    isPresent o value = (presenceTest o).map (· value) := by
  unfold isPresent presenceTest
  cases o.flag "checkFalsy" with
  | error e => rfl
  | ok falsy =>
    cases falsy with
    | true => rfl
    | false =>
      cases o.flag "checkNull" with
      | error e => rfl
      | ok null => cases null <;> rfl

theorem isArrayWithin_eq_map (o : Options) (value : Option Json) :
    isArrayWithin o value = (sizeTest o).map (· value) := by
  unfold isArrayWithin sizeTest
  cases o.bound? "min" with
  | error e => rfl
  | ok min =>
    cases o.bound? "max" with
    | error e => rfl
    | ok max => rcases value with _ | (_ | _ | _ | _ | _ | _) <;> rfl

/-- The verdicts are those of one check that the arguments give. -/
theorem verdicts_eq_map (r : Rule) (args : Arguments) (value : Option Json) :
    r.verdicts args value = (r.checker args).map (· value) := by
  unfold verdicts
  split
  · cases ho : args.options 0 with
    | error e => simp [checker, ho, bind, Except.bind, Except.map]
    | ok o =>
      simp only [checker, ho, bind, Except.bind, isPresent_eq_map]
      cases presenceTest o <;> rfl
  · rfl
  · cases ho : args.options 0 with
    | error e => simp [checker, ho, bind, Except.bind, Except.map]
    | ok o =>
      simp only [checker, ho, bind, Except.bind, isArrayWithin_eq_map]
      cases sizeTest o <;> rfl
  · rfl
  · rfl
  · rw [checker]
    split
    · cases TextTest.ofRule r args <;> rfl
    · rfl
    all_goals assumption

theorem verdicts_error_iff {r : Rule} {args : Arguments} {v : Option Json} {e : ArgumentError} :
    r.verdicts args v = .error e ↔ r.checker args = .error e := by
  rw [verdicts_eq_map]
  cases r.checker args <;> simp [Except.map]

theorem change_error_iff {r : Rule} {args : Arguments} {v : Option Json} {e : ArgumentError} :
    r.change args v = .error e ↔ Change.ofRule r args = .error e := by
  unfold change
  cases Change.ofRule r args <;> simp [bind, Except.bind]

theorem verdicts_error {r : Rule} {args : Arguments} {v : Option Json} {e : ArgumentError}
    (h : r.verdicts args v = .error e) (w : Option Json) : r.verdicts args w = .error e :=
  verdicts_error_iff.mpr (verdicts_error_iff.mp h)

theorem change_error {r : Rule} {args : Arguments} {v : Option Json} {e : ArgumentError}
    (h : r.change args v = .error e) (w : Option Json) : r.change args w = .error e :=
  change_error_iff.mpr (change_error_iff.mp h)

end RequestValidation.Rule
