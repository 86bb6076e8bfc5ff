import RequestValidation.Proofs.Chain.Calls
import RequestValidation.Proofs.Chain.Faults
import RequestValidation.Proofs.Rule.Roles
/-!
# Chains as they are built

A chain that is built by calls, from a new one on, has every rule in its place: what checks is
queued as a check, what changes as a change, and the optional rule not at all. So it is in the
chains that its conditions ask, as these are built by calls too. A run of such a chain may fail for
the arguments of a rule, but never because the rule does not belong where it stands.

Results:
* `RulesInPlace.call`, `Built.rulesInPlace`: a call leaves the rules in place, and so do all calls.
* `exists_of_run_error`: what a run fails with is the failure of one step.
* `RulesInPlace.spares`: what a run with its rules in place does not fail with.
-/
namespace RequestValidation

/-- Whether the rule of a step is one for that kind of step. -/
def Step.InPlace : Step → Prop
  | .validation v => v.rule.role = .validator ∧ v.rule ≠ .optional
  | .sanitization s => s.rule.role = .sanitizer
  | .condition _ => True
  | .bail => True

namespace Chain

/-- The chains that calls of the builder give, when the chains in conditions are built so too. -/
inductive Built : Chain → Prop
  | new (field : String) (locations : List Location) (message : Option Message) :
      Built (Chain.new field locations message)
  | check (field : String) : Built (Chain.check field)
  | call {c : Chain} {k : Call} (hc : Built c) (hk : ∀ d, k = .when (.chain d) → Built d) :
      Built (c.call k)

/-- Whether all rules are in place, those in the chains of conditions included. -/
inductive RulesInPlace : Chain → Prop
  | intro {c : Chain} (own : ∀ s ∈ c.steps, s.InPlace)
      (inner : ∀ d, .condition (.chain d) ∈ c.steps → RulesInPlace d) : RulesInPlace c

theorem RulesInPlace.own {c : Chain} (h : c.RulesInPlace) : ∀ s ∈ c.steps, s.InPlace := by
  cases h with
  | intro own _ => exact own

theorem RulesInPlace.inner {c : Chain} (h : c.RulesInPlace) :
    ∀ d, .condition (.chain d) ∈ c.steps → RulesInPlace d := by
  cases h with
  | intro _ inner => exact inner

theorem rulesInPlace_new (field : String) (locations : List Location) (message : Option Message) :
    (Chain.new field locations message).RulesInPlace := .intro nofun nofun

/-! ## Calls -/

/-- What a call queues. -/
inductive Call.Queues (negated : Bool) (message : Option Message) : Call → Step → Prop
  | check {r : Rule} {args : Arguments} (hr : r.role = .validator) (hopt : r ≠ .optional) :
      Queues negated message (.rule r args) (.validation ⟨r, args, negated, message⟩)
  | change {r : Rule} {args : Arguments} (hr : r.role = .sanitizer) :
      Queues negated message (.rule r args) (.sanitization ⟨r, args⟩)
  | condition (condition : Condition) :
      Queues negated message (.when condition) (.condition condition)
  | bail : Queues negated message .bail .bail

theorem Call.queues_of_step? {negated : Bool} {message : Option Message} {k : Call} {s : Step}
    (h : k.step? negated message = some s) : k.Queues negated message s := by
  cases k with
  | rule r args =>
    rw [Call.step?] at h
    split at h
    · cases h
    · rename_i hopt
      cases hr : r.role with
      | validator =>
        rw [hr] at h
        exact Option.some.inj h ▸ .check hr hopt
      | sanitizer =>
        rw [hr] at h
        exact Option.some.inj h ▸ .change hr
  | when condition => exact Option.some.inj h ▸ .condition condition
  | bail => exact Option.some.inj h ▸ .bail
  | negate | saying | addField => cases h

/-- A call queues its rule as what it is. -/
theorem Call.Queues.inPlace {negated : Bool} {message : Option Message} {k : Call} {s : Step}
    (h : k.Queues negated message s) : s.InPlace := by
  cases h with
  | check hr hopt => exact ⟨hr, hopt⟩
  | change hr => exact hr
  | condition | bail => trivial

theorem inPlace_said {m : Option Message} {steps : List Step} (h : ∀ s ∈ steps, s.InPlace) :
    ∀ s ∈ said m steps, s.InPlace := by
  intro s hs
  rcases mem_said hs with hs | ⟨v, hv, rfl⟩
  · exact h s hs
  · have hown := h _ hv
    exact hown

/-- A call leaves the rules of a chain in place. -/
theorem RulesInPlace.call {c : Chain} (h : c.RulesInPlace) {k : Call}
    (hk : ∀ d, k = .when (.chain d) → d.RulesInPlace) : (c.call k).RulesInPlace := by
  rw [call_eq]
  constructor
  · intro s hs
    rcases List.mem_append.mp hs with hs | hs
    · exact inPlace_said h.own s hs
    · exact (Call.queues_of_step? (Option.mem_toList.mp hs)).inPlace
  · intro d hd
    rcases List.mem_append.mp hd with hd | hd
    · rcases mem_said hd with hd | ⟨v, -, hv⟩
      · exact h.inner d hd
      · cases hv
    · cases Call.queues_of_step? (Option.mem_toList.mp hd)
      exact hk d rfl

theorem Built.rulesInPlace {c : Chain} (h : c.Built) : c.RulesInPlace := by
  induction h with
  | new field locations message => exact rulesInPlace_new field locations message
  | check field => exact rulesInPlace_new field Location.all none
  | call _ _ ih ihk => exact ih.call ihk

end Chain

/-! ## Runs -/

section
variable {request : Request} {chain : Option Message} {e : InvalidArguments}

theorem exists_of_runSteps_error {steps : List Step} {walks : List Walk}
    (h : runSteps request chain steps walks = .error e) :
    ∃ s ∈ steps, ∃ w, s.advance request chain w = .error e := by
  induction steps generalizing walks with
  | nil =>
    rw [runSteps_nil] at h
    cases h
  | cons s rest ih =>
    rw [runSteps_cons] at h
    split at h
    · cases h
    · rcases bind_error_iff.mp h with hs | ⟨next, -, hrest⟩
      · obtain ⟨w, -, he⟩ := exists_of_mapM_error hs
        exact ⟨s, List.mem_cons_self, w, he⟩
      · obtain ⟨t, ht, hw⟩ := ih hrest
        exact ⟨t, List.mem_cons_of_mem s ht, hw⟩

/-- What a run fails with is what one of its steps fails with. -/
theorem exists_of_run_error {c : Chain} (h : c.run request = .error e) :
    ∃ s ∈ c.steps, ∃ w, w.stopped = false ∧ s.advance request c.message w = .error e := by
  rw [run_eq_map, map_error_iff] at h
  obtain ⟨s, hs, w, hw⟩ := exists_of_runSteps_error h
  refine ⟨s, hs, w, ?_, hw⟩
  cases hstopped : w.stopped with
  | false => rfl
  | true =>
    rw [advance_stopped request _ s w hstopped] at hw
    cases hw

/-- A condition fails only if it is a chain whose run does. -/
theorem exists_of_advance_condition_error {condition : Condition} {w : Walk}
    (h : (Step.condition condition).advance request chain w = .error e) :
    ∃ d, condition = .chain d ∧ d.run request = .error e := by
  rw [Step.advance] at h
  split at h
  · cases h
  · rcases bind_error_iff.mp h with h | ⟨proceed, -, h⟩
    · cases condition with
      | predicate holds => cases h
      | chain d =>
        rw [Condition.holds] at h
        rcases bind_error_iff.mp h with h | ⟨outcome, -, h⟩
        · exact ⟨d, rfl, h⟩
        · cases h
    · cases h

/-- The fault of a step in place is not that its rule is where it is. -/
theorem Step.InPlace.spares {s : Step} (h : s.InPlace) (he : s.fault? = some e) :
    ¬ e.cause.BlamesRole := by
  cases s with
  | validation v =>
    obtain ⟨cause, hcause, rfl⟩ := Rule.blamed?_eq_some_iff.mp he
    exact (Rule.spares_checker_iff v.args).mpr h.1 cause hcause
  | sanitization s =>
    obtain ⟨cause, hcause, rfl⟩ := Rule.blamed?_eq_some_iff.mp he
    exact (Rule.spares_ofRule_iff s.args).mpr h cause hcause
  | condition c => cases he
  | bail => cases he

/-- A run with all rules in place does not fail because of where a rule is. -/
theorem Chain.RulesInPlace.spares {c : Chain} (h : c.RulesInPlace)
    (he : c.run request = .error e) : ¬ e.cause.BlamesRole := by
  -- on the chains in conditions, whose runs are parts of this one
  induction h with
  | intro own inner ih =>
    obtain ⟨s, hs, w, hw, hfail⟩ := exists_of_run_error he
    cases s with
    | validation v =>
      have hrule : (Step.validation v).AppliesRule := trivial
      exact (own _ hs).spares ((advance_error_iff hrule hw).mp hfail)
    | sanitization s =>
      have hrule : (Step.sanitization s).AppliesRule := trivial
      exact (own _ hs).spares ((advance_error_iff hrule hw).mp hfail)
    | condition condition =>
      obtain ⟨d, rfl, hd⟩ := exists_of_advance_condition_error hfail
      exact ih d hs hd
    | bail =>
      rw [Step.advance] at hfail
      cases hfail

end

end RequestValidation
