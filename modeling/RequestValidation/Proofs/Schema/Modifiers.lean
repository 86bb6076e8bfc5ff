import RequestValidation.Proofs.Chain.Queue
import RequestValidation.Schema.Plan
/-!
# How far modifiers reach

The uses of rules in a field queue their steps one after the other. A validator takes its own
modifiers, and then those of optional rules near it: the optional rule queues no validator, so its
negation waits for the next one, its message goes back to the last one, and its condition and its
bail stand beside the steps of its neighbours.

Results:
* `addUse_steps`, `addUse_negateNext`: what one use does to a chain.
* `kind_addUses`: the kinds of the steps are those that the uses queue, use by use.
* `addUses_append_steps`: later uses change earlier steps by a late message only.
* `ValidatorUse.steps_eq`: the step of a validator among those of the other uses.
* `validator_isolated_iff`: when a validator has its own modifiers and no others.
* `modifiers_of_optional_escape`: a negation and a message that go astray.
* `isolated_of_plain_optional`: without modifiers of optional rules all validators have.
-/
namespace RequestValidation

open Chain (said hasValidation)

/-! ## Uses of rules -/

/-- The rule that a use in a field counts for. -/
def usedRule? (p : String × RuleUse) : Option Rule :=
  if isActive p.1 p.2 then Rule.ofName? p.1 else none

/-- The modifiers of a use; one without any has plain ones. -/
def RuleUse.modifiers : RuleUse → Modifiers
  | modified m => m
  | _ => {}

namespace Modifiers

def conditionSteps (m : Modifiers) : List Step := (m.condition.map .condition).toList

def bailSteps (m : Modifiers) : List Step := if m.bail then [.bail] else []

end Modifiers

/-- The steps that a use queues; `pending` says whether a negation waits for a validator. -/
def queuedBy (pending : Bool) (p : String × RuleUse) : List Step :=
  let m := p.2.modifiers
  match usedRule? p with
  | none => []
  | some r =>
    if r = .optional then m.conditionSteps ++ m.bailSteps
    else match r.role with
      | .sanitizer => [.sanitization ⟨r, p.2.arguments⟩]
      | .validator =>
        m.conditionSteps ++
          .validation ⟨r, p.2.arguments, m.negated || pending, m.message⟩ :: m.bailSteps

/-- The message that a use gives to a validator queued before it. -/
def messageBack (p : String × RuleUse) : Option Message :=
  if usedRule? p = some .optional then p.2.modifiers.message else none

/-- Does a negation wait for a validator behind a use, if one does before it or not? -/
def pendingBehind (pending : Bool) (p : String × RuleUse) : Bool :=
  match usedRule? p with
  | none => pending
  | some r =>
    if r = .optional then p.2.modifiers.negated || pending
    else match r.role with
      | .sanitizer => pending
      | .validator => false

namespace Chain

theorem addUse_eq (c : Chain) (p : String × RuleUse) :
    c.addUse p.1 p.2 =
      match usedRule? p with
      | none => c
      | some r =>
        match r.role with
        | .validator => c.addValidator r p.2.arguments p.2.modifiers
        | .sanitizer => c.rule r p.2.arguments := by
  obtain ⟨key, u⟩ := p
  unfold addUse usedRule?
  cases isActive key u with
  | false => rfl
  | true =>
    simp only [if_true]
    cases Rule.ofName? key with
    | none => rfl
    | some r =>
      cases hr : r.role with
      | sanitizer => simp only [hr]
      | validator => cases u <;> simp only [hr] <;> rfl

/-- A chain that is ready for a validator: the condition is queued and the negation waits. -/
def ready (c : Chain) (m : Modifiers) : Chain :=
  let c := match m.condition with
    | some condition => c.when condition
    | none => c
  if m.negated then c.not else c

/-- A chain behind a validator: the message is given and the bail is queued. -/
def settled (c : Chain) (m : Modifiers) : Chain :=
  let c := match m.message with
    | some text => c.saying text
    | none => c
  if m.bail then c.bail else c

theorem addValidator_eq (c : Chain) (r : Rule) (args : Arguments) (m : Modifiers) :
    c.addValidator r args m = ((c.ready m).rule r args).settled m := rfl

theorem ready_steps (c : Chain) (m : Modifiers) :
    (c.ready m).steps = c.steps ++ m.conditionSteps := by
  unfold ready Modifiers.conditionSteps
  cases m.condition <;> cases m.negated <;> simp [when, Chain.not, addStep]

theorem ready_negateNext (c : Chain) (m : Modifiers) :
    (c.ready m).negateNext = (m.negated || c.negateNext) := by
  unfold ready
  cases m.condition <;> cases m.negated <;> simp [when, Chain.not, addStep]

theorem settled_steps (c : Chain) (m : Modifiers) :
    (c.settled m).steps = said m.message c.steps ++ m.bailSteps := by
  unfold settled Modifiers.bailSteps
  cases m.message <;> cases m.bail <;> simp [saying, said, Chain.bail, addStep]

theorem settled_negateNext (c : Chain) (m : Modifiers) :
    (c.settled m).negateNext = c.negateNext := by
  unfold settled
  cases m.message <;> cases m.bail <;> rfl

/-! ## What one use does to a chain -/

/-- One use gives a message to the last validator and queues its own steps. -/
theorem addUse_steps (c : Chain) (p : String × RuleUse) :
    (c.addUse p.1 p.2).steps = said (messageBack p) c.steps ++ queuedBy c.negateNext p := by
  rw [addUse_eq, messageBack, queuedBy]
  have hcondition : hasValidation p.2.modifiers.conditionSteps = false := by
    unfold Modifiers.conditionSteps
    cases p.2.modifiers.condition <;> rfl
  cases usedRule? p with
  | none => simp [said]
  | some r =>
    by_cases hopt : r = .optional
    · subst hopt
      simp only [Rule.role, addValidator_eq, settled_steps, rule_optional_steps, ready_steps,
        said_append, hcondition]
      simp
    · simp only [Option.some.injEq, hopt, if_false, said]
      cases hr : r.role with
      | sanitizer => rw [rule_sanitizer hr]; rfl
      | validator =>
        simp only [addValidator_eq, settled_steps, rule_validator hr hopt, addStep, ready_steps,
          ready_negateNext, said_last _ _ _ (k := []) rfl, Option.or_none]
        simp

theorem addUse_negateNext (c : Chain) (p : String × RuleUse) :
    (c.addUse p.1 p.2).negateNext = pendingBehind c.negateNext p := by
  rw [addUse_eq, pendingBehind]
  cases usedRule? p with
  | none => rfl
  | some r =>
    by_cases hopt : r = .optional
    · subst hopt
      simp only [Rule.role, addValidator_eq, settled_negateNext, if_true, ← ready_negateNext]
      rfl
    · simp only [hopt, if_false]
      cases hr : r.role with
      | sanitizer => rw [rule_sanitizer hr]; rfl
      | validator =>
        simp only [addValidator_eq, settled_negateNext, rule_validator hr hopt]

/-! ## What all the uses do -/

/-- The chain with the steps that some uses of rules queue. -/
def addUses (c : Chain) (uses : List (String × RuleUse)) : Chain :=
  uses.foldl (fun c p => c.addUse p.1 p.2) c

end Chain

/-- The kinds of the steps that a use queues. -/
def queuedKinds (p : String × RuleUse) : List StepKind := (queuedBy false p).map Step.kind

/-- Does a negation wait for a validator behind some uses? -/
def pendingNot (before : List (String × RuleUse)) : Bool := before.foldl pendingBehind false

/-- The message that some uses give to the last validator before them: they do as long as they
queue no validator themselves, and the last message wins. -/
def lateMessage : List (String × RuleUse) → Option Message
  | [] => none
  | p :: after =>
    if .validation ∈ queuedKinds p then none else (lateMessage after).or (messageBack p)

theorem kind_queuedBy (pending : Bool) (p : String × RuleUse) :
    (queuedBy pending p).map Step.kind = queuedKinds p := by
  unfold queuedKinds queuedBy
  cases usedRule? p with
  | none => rfl
  | some r =>
    by_cases hopt : r = .optional
    · simp only [hopt, if_true]
    · simp only [hopt, if_false]
      cases r.role with
      | sanitizer => rfl
      | validator => simp [Step.kind]

namespace Chain

/-- The kinds of the steps are those that the uses queue, use by use. -/
theorem kind_addUses (c : Chain) (uses : List (String × RuleUse)) :
    (c.addUses uses).steps.map Step.kind =
      c.steps.map Step.kind ++ uses.flatMap queuedKinds := by
  induction uses generalizing c with
  | nil => simp [addUses]
  | cons p uses ih =>
    rw [addUses, List.foldl_cons, ← addUses, ih, addUse_steps, List.map_append, kind_said,
      kind_queuedBy, List.flatMap_cons, List.append_assoc]

theorem addUses_negateNext (c : Chain) (uses : List (String × RuleUse)) :
    (c.addUses uses).negateNext = uses.foldl pendingBehind c.negateNext := by
  induction uses generalizing c with
  | nil => rfl
  | cons p uses ih =>
    rw [addUses, List.foldl_cons, ← addUses, ih, addUse_negateNext, List.foldl_cons]

/-- A use that queues a validator gives its message to that one. -/
theorem messageBack_of_queues {p : String × RuleUse} (h : .validation ∈ queuedKinds p) :
    messageBack p = none := by
  refine if_neg fun hopt => ?_
  simp only [queuedKinds, queuedBy, hopt, if_true, Modifiers.conditionSteps,
    Modifiers.bailSteps] at h
  cases hc : p.2.modifiers.condition <;> cases hb : p.2.modifiers.bail <;>
    simp [hc, hb, Step.kind] at h

/-- Uses queue the same steps behind any chain. What stands before them changes by a late message
only, and not once there is a validator behind it. -/
theorem addUses_append_steps {c d : Chain} {before : List Step}
    (uses : List (String × RuleUse)) (hsteps : c.steps = before ++ d.steps)
    (hnegate : c.negateNext = d.negateNext) :
    (c.addUses uses).steps =
      (if hasValidation d.steps then before else said (lateMessage uses) before) ++
        (d.addUses uses).steps := by
  induction uses generalizing c d before with
  | nil => simp [addUses, hsteps, lateMessage, said]
  | cons p uses ih =>
    -- one use does to `before` what the whole list says, and to the rest the same on both sides
    have hc : (c.addUse p.1 p.2).steps =
        (if hasValidation d.steps then before else said (messageBack p) before) ++
          (d.addUse p.1 p.2).steps := by
      rw [addUse_steps, addUse_steps, hsteps, hnegate, said_append]
      cases hd : hasValidation d.steps with
      | true => simp
      | false => simp [said_of_no_validation _ hd]
    have hn : (c.addUse p.1 p.2).negateNext = (d.addUse p.1 p.2).negateNext := by
      rw [addUse_negateNext, addUse_negateNext, hnegate]
    have hd : hasValidation (d.addUse p.1 p.2).steps =
        (hasValidation d.steps || decide (.validation ∈ queuedKinds p)) := by
      rw [addUse_steps, hasValidation_append, hasValidation_said, ← kind_queuedBy d.negateNext,
        Bool.eq_iff_iff]
      simp [hasValidation_iff]
    rw [addUses, addUses, List.foldl_cons, List.foldl_cons, ← addUses, ← addUses, ih hc hn, hd,
      lateMessage]
    congr 1
    cases hasValidation d.steps with
    | true => simp
    | false =>
      by_cases hq : .validation ∈ queuedKinds p
      · simp [hq, messageBack_of_queues hq, said]
      · simp [hq, said_said]

end Chain

/-! ## The step of one validator -/

namespace FieldSchema

/-- The chain of a field before its rules. -/
def start (f : FieldSchema) (field : String) (defaults : List Location) : Chain :=
  Chain.new field (LocationChoice.resolve f.locations defaults) f.message

theorem chain_eq (f : FieldSchema) (field : String) (defaults : List Location) :
    f.chain field defaults = (f.start field defaults).addUses f.rules := rfl

end FieldSchema

/-- A use of a rule, among those of a field, that queues a validator. -/
structure ValidatorUse (f : FieldSchema) where
  before : List (String × RuleUse)
  use : String × RuleUse
  after : List (String × RuleUse)
  rule : Rule
  rules_eq : f.rules = before ++ use :: after
  used : usedRule? use = some rule
  checks : rule.role = .validator
  queues : rule ≠ .optional

namespace ValidatorUse

variable {f : FieldSchema}

def modifiers (u : ValidatorUse f) : Modifiers := u.use.2.modifiers

/-- The place of the step: behind those of the uses before and its own condition. -/
def place (u : ValidatorUse f) : Nat :=
  (u.before.flatMap queuedKinds).length + u.modifiers.conditionSteps.length

/-- The step that the use asks for. -/
def ownStep (u : ValidatorUse f) : Step :=
  .validation ⟨u.rule, u.use.2.arguments, u.modifiers.negated, u.modifiers.message⟩

/-- The step that the use gets: a waiting negation and a late message count as its own. -/
def gotStep (u : ValidatorUse f) : Step :=
  .validation ⟨u.rule, u.use.2.arguments, u.modifiers.negated || pendingNot u.before,
    (lateMessage u.after).or u.modifiers.message⟩

/-- Among the steps at the place of the use is the one that it asks for, right behind a condition
exactly if it has one and right before a bail exactly if it has one. -/
def Isolated (u : ValidatorUse f) (steps : List Step) : Prop :=
  steps[u.place]? = some u.ownStep ∧
    ((∃ c, (steps.take u.place).getLast? = some (.condition c)) ↔
      u.modifiers.condition.isSome = true) ∧
    (steps[u.place + 1]? = some .bail ↔ u.modifiers.bail = true)

/-- No use nearby leaves the validator a negation, a message, a condition or a bail that it does not
have itself. -/
structure Undisturbed (u : ValidatorUse f) : Prop where
  negated : pendingNot u.before = true → u.modifiers.negated = true
  message : ∀ m, lateMessage u.after = some m → u.modifiers.message = some m
  condition : (u.before.flatMap queuedKinds).getLast? = some .condition →
    u.modifiers.condition.isSome = true
  bail : (u.after.flatMap queuedKinds).head? = some .bail → u.modifiers.bail = true

/-- The step of a validator among those of the other uses. -/
theorem steps_eq (u : ValidatorUse f) (field : String) (defaults : List Location) :
    (f.chain field defaults).steps =
      (((f.start field defaults).addUses u.before).steps ++ u.modifiers.conditionSteps) ++
        u.gotStep :: (u.modifiers.bailSteps ++
          ((f.start field defaults).addUses u.after).steps) := by
  have hbail : hasValidation u.modifiers.bailSteps = false := by
    unfold Modifiers.bailSteps
    cases u.modifiers.bail <;> rfl
  have hback : messageBack u.use = none := by
    rw [messageBack, u.used]
    exact if_neg fun e => u.queues (Option.some.inj e)
  -- the chain as it is right behind the use
  let c := (f.start field defaults).addUses u.before
  let d := c.addUse u.use.1 u.use.2
  have hpending : c.negateNext = pendingNot u.before := Chain.addUses_negateNext _ _
  have hsteps : d.steps = (c.steps ++ u.modifiers.conditionSteps) ++
      .validation ⟨u.rule, u.use.2.arguments, u.modifiers.negated || pendingNot u.before,
        u.modifiers.message⟩ :: u.modifiers.bailSteps := by
    rw [Chain.addUse_steps, hback, hpending, queuedBy, u.used]
    simp only [if_neg u.queues, u.checks, said, List.append_assoc]
    rfl
  have hnegate : d.negateNext = false := by
    rw [Chain.addUse_negateNext, pendingBehind, u.used]
    simp only [if_neg u.queues, u.checks]
  have hchain : f.chain field defaults = d.addUses u.after := by
    rw [FieldSchema.chain_eq, u.rules_eq, Chain.addUses, List.foldl_append]
    rfl
  have hstart : ¬ hasValidation (f.start field defaults).steps = true := Bool.false_ne_true
  have hbehind : d.steps = d.steps ++ (f.start field defaults).steps := (List.append_nil _).symm
  rw [hchain, Chain.addUses_append_steps u.after hbehind hnegate, if_neg hstart, hsteps,
    Chain.said_last _ _ _ hbail]
  simp only [gotStep, List.append_assoc, List.cons_append]
  rfl

theorem length_before (u : ValidatorUse f) (field : String) (defaults : List Location) :
    (((f.start field defaults).addUses u.before).steps ++ u.modifiers.conditionSteps).length =
      u.place := by
  have h := congrArg List.length
    (Chain.kind_addUses (f.start field defaults) u.before)
  rw [List.length_map, List.length_append, List.length_map] at h
  rw [List.length_append, h, place]
  exact congrArg (· + _) (Nat.zero_add _)

/-- Lists of steps that end in a condition are told by their kinds. -/
theorem getLast?_condition_iff (steps : List Step) :
    (∃ c, steps.getLast? = some (.condition c)) ↔
      (steps.map Step.kind).getLast? = some .condition := by
  rw [List.getLast?_map, Option.map_eq_some_iff]
  constructor
  · rintro ⟨c, hc⟩
    exact ⟨_, hc, rfl⟩
  · rintro ⟨s, hs, hk⟩
    obtain ⟨c, rfl⟩ := Step.kind_eq_condition_iff.mp hk
    exact ⟨c, hs⟩

theorem head?_bail_iff (steps : List Step) :
    steps.head? = some .bail ↔ (steps.map Step.kind).head? = some .bail := by
  rw [List.head?_map, Option.map_eq_some_iff]
  constructor
  · intro h
    exact ⟨_, h, rfl⟩
  · rintro ⟨s, hs, hk⟩
    rw [hs, Step.kind_eq_bail_iff.mp hk]

theorem ownStep_eq_gotStep_iff (u : ValidatorUse f) :
    u.gotStep = u.ownStep ↔
      (pendingNot u.before = true → u.modifiers.negated = true) ∧
        ∀ m, lateMessage u.after = some m → u.modifiers.message = some m := by
  rw [gotStep, ownStep, Step.validation.injEq, Validation.mk.injEq]
  simp only [true_and]
  refine and_congr ?_ ?_
  · cases u.modifiers.negated <;> cases pendingNot u.before <;> simp
  · cases lateMessage u.after with
    | none => simp
    | some m => simp [eq_comm]

theorem condition_before_iff (u : ValidatorUse f) (field : String) (defaults : List Location) :
    (∃ c, ((f.chain field defaults).steps.take u.place).getLast? = some (.condition c)) ↔
      u.modifiers.condition.isSome = true ∨
        (u.before.flatMap queuedKinds).getLast? = some .condition := by
  rw [u.steps_eq field defaults, ← u.length_before field defaults, List.take_left']
  · rw [getLast?_condition_iff, List.map_append, Chain.kind_addUses]
    unfold Modifiers.conditionSteps
    cases u.modifiers.condition with
    | none => simp [FieldSchema.start, Chain.new]
    | some c => simp [Step.kind]
  · rfl

theorem bail_behind_iff (u : ValidatorUse f) (field : String) (defaults : List Location) :
    (f.chain field defaults).steps[u.place + 1]? = some .bail ↔
      u.modifiers.bail = true ∨ (u.after.flatMap queuedKinds).head? = some .bail := by
  rw [u.steps_eq field defaults, ← u.length_before field defaults,
    List.getElem?_append_right (Nat.le_add_right _ 1), Nat.add_sub_cancel_left,
    List.getElem?_cons_succ, ← List.head?_eq_getElem?, head?_bail_iff, List.map_append,
    Chain.kind_addUses]
  unfold Modifiers.bailSteps
  cases u.modifiers.bail with
  | false => simp [FieldSchema.start, Chain.new]
  | true => simp [Step.kind]

theorem step_at_place (u : ValidatorUse f) (field : String) (defaults : List Location) :
    (f.chain field defaults).steps[u.place]? = some u.gotStep := by
  rw [u.steps_eq field defaults, ← u.length_before field defaults,
    List.getElem?_append_right (Nat.le_refl _), Nat.sub_self, List.getElem?_cons_zero]

theorem isolated_of_undisturbed {u : ValidatorUse f} (h : u.Undisturbed) (field : String)
    (defaults : List Location) : u.Isolated (f.chain field defaults).steps := by
  refine ⟨?_, ?_, ?_⟩
  · rw [u.step_at_place, u.ownStep_eq_gotStep_iff.mpr ⟨h.negated, h.message⟩]
  · rw [u.condition_before_iff]
    exact ⟨fun hc => hc.elim id h.condition, .inl⟩
  · rw [u.bail_behind_iff]
    exact ⟨fun hb => hb.elim id h.bail, .inl⟩

theorem undisturbed_of_isolated {u : ValidatorUse f} {field : String} {defaults : List Location}
    (h : u.Isolated (f.chain field defaults).steps) : u.Undisturbed := by
  obtain ⟨hstep, hcondition, hbail⟩ := h
  rw [u.step_at_place, Option.some.injEq] at hstep
  obtain ⟨hnegated, hmessage⟩ := u.ownStep_eq_gotStep_iff.mp hstep
  rw [u.condition_before_iff] at hcondition
  rw [u.bail_behind_iff] at hbail
  exact ⟨hnegated, hmessage, fun h => hcondition.mp (.inr h), fun h => hbail.mp (.inr h)⟩

end ValidatorUse

/-- **When modifiers keep to their rule.** A validator of a field has the step that its own use asks
for, between its own condition and its own bail, exactly when no optional rule nearby leaves it a
modifier. -/
theorem validator_isolated_iff (f : FieldSchema) (field : String) (defaults : List Location)
    (u : ValidatorUse f) :
    u.Isolated (f.chain field defaults).steps ↔ u.Undisturbed := by
  constructor
  · exact ValidatorUse.undisturbed_of_isolated
  · exact fun h => ValidatorUse.isolated_of_undisturbed h field defaults

/-- A field whose optional rule is negated, and an integer behind it. -/
def negatedOptional : FieldSchema :=
  { rules := [("optional", .modified { negated := true }), ("isInt", .switch true)] }

def negatedOptionalInt : ValidatorUse negatedOptional :=
  ⟨[("optional", .modified { negated := true })], ("isInt", .switch true), [], .isInt, rfl,
    by decide, rfl, by decide⟩

/-- A field with an integer, and behind it an optional rule with a message. -/
def wordedOptional : FieldSchema :=
  { rules := [("isInt", .switch true), ("optional", .modified { message := some (.fixed "x") })] }

def wordedOptionalInt : ValidatorUse wordedOptional :=
  ⟨[], ("isInt", .switch true), [("optional", .modified { message := some (.fixed "x") })], .isInt,
    rfl, by decide, rfl, by decide⟩

/-- The negation of an optional rule negates the integer check behind it, and its message becomes
that of the integer check in front of it. -/
theorem modifiers_of_optional_escape :
    (¬ negatedOptionalInt.Isolated (negatedOptional.chain "age" Location.all).steps) ∧
      ¬ wordedOptionalInt.Isolated (wordedOptional.chain "age" Location.all).steps := by
  refine ⟨fun h => ?_, fun h => ?_⟩
  · have hnegated := (ValidatorUse.undisturbed_of_isolated h).negated (by decide)
    cases hnegated
  · have hmessage := (ValidatorUse.undisturbed_of_isolated h).message (.fixed "x") rfl
    cases hmessage

/-! ## Optional rules without modifiers -/

/-- The uses of the optional rule in a field have no modifiers but arguments. -/
def PlainOptional (f : FieldSchema) : Prop :=
  ∀ p ∈ f.rules, usedRule? p = some .optional →
    p.2.modifiers.negated = false ∧ p.2.modifiers.message = none ∧
      p.2.modifiers.condition = none ∧ p.2.modifiers.bail = false

theorem pendingNot_of_plain {uses : List (String × RuleUse)}
    (h : ∀ p ∈ uses, usedRule? p = some .optional → p.2.modifiers.negated = false) :
    pendingNot uses = false := by
  have hone : ∀ p ∈ uses, pendingBehind false p = false := by
    intro p hp
    unfold pendingBehind
    cases hused : usedRule? p with
    | none => rfl
    | some r =>
      by_cases hopt : r = .optional
      · subst hopt
        simp [h p hp hused]
      · simp only [hopt, if_false]
        cases r.role <;> rfl
  unfold pendingNot
  induction uses with
  | nil => rfl
  | cons p uses ih =>
    rw [List.foldl_cons, hone p List.mem_cons_self]
    exact ih (fun q hq => h q (List.mem_cons_of_mem p hq))
      fun q hq => hone q (List.mem_cons_of_mem p hq)

theorem lateMessage_of_plain {uses : List (String × RuleUse)}
    (h : ∀ p ∈ uses, usedRule? p = some .optional → p.2.modifiers.message = none) :
    lateMessage uses = none := by
  induction uses with
  | nil => rfl
  | cons p uses ih =>
    have hback : messageBack p = none := by
      unfold messageBack
      split
      · exact h p List.mem_cons_self (by assumption)
      · rfl
    rw [lateMessage, hback, ih fun q hq => h q (List.mem_cons_of_mem p hq)]
    split <;> rfl

theorem kinds_of_plain {p : String × RuleUse} (h : usedRule? p = some .optional →
      p.2.modifiers.condition = none ∧ p.2.modifiers.bail = false) :
    (queuedKinds p).getLast? ≠ some .condition ∧ (queuedKinds p).head? ≠ some .bail := by
  unfold queuedKinds queuedBy
  cases hused : usedRule? p with
  | none => simp
  | some r =>
    by_cases hopt : r = .optional
    · subst hopt
      obtain ⟨hc, hb⟩ := h hused
      simp [Modifiers.conditionSteps, Modifiers.bailSteps, hc, hb]
    · simp only [hopt, if_false]
      cases r.role with
      | sanitizer => simp [Step.kind]
      | validator =>
        unfold Modifiers.conditionSteps Modifiers.bailSteps
        cases p.2.modifiers.condition <;> cases p.2.modifiers.bail <;> simp [Step.kind]

/-- If the optional rule has no modifiers, every validator has its own modifiers and no others. -/
theorem isolated_of_plain_optional {f : FieldSchema} (h : PlainOptional f) (field : String)
    (defaults : List Location) (u : ValidatorUse f) :
    u.Isolated (f.chain field defaults).steps := by
  have hbefore : ∀ p ∈ u.before, p ∈ f.rules := fun p hp => by
    rw [u.rules_eq]
    exact List.mem_append_left _ hp
  have hafter : ∀ p ∈ u.after, p ∈ f.rules := fun p hp => by
    rw [u.rules_eq]
    exact List.mem_append_right _ (List.mem_cons_of_mem _ hp)
  have hkinds : ∀ p ∈ f.rules,
      (queuedKinds p).getLast? ≠ some .condition ∧ (queuedKinds p).head? ≠ some .bail :=
    fun p hp => kinds_of_plain fun hopt => (h p hp hopt).2.2
  refine ValidatorUse.isolated_of_undisturbed ⟨?_, ?_, ?_, ?_⟩ field defaults
  · rw [pendingNot_of_plain fun p hp hopt => (h p (hbefore p hp) hopt).1]
    exact fun e => absurd e Bool.false_ne_true
  · rw [lateMessage_of_plain fun p hp hopt => (h p (hafter p hp) hopt).2.1]
    exact fun m e => nomatch e
  · intro e
    rw [List.getLast?_flatMap] at e
    obtain ⟨p, hp, hlast⟩ := List.exists_of_findSome?_eq_some e
    exact absurd hlast (hkinds p (hbefore p (List.mem_reverse.mp hp))).1
  · intro e
    rw [List.head?_flatMap] at e
    obtain ⟨p, hp, hhead⟩ := List.exists_of_findSome?_eq_some e
    exact absurd hhead (hkinds p (hafter p hp)).2

end RequestValidation
