import Mathlib.Data.List.DropRight
import RequestValidation.Proofs.Chain.Queue
/-!
# What calls of the builder come to

A chain is built by calls, one after the other, and it can be read off the list of its calls. Only
two things reach further than the call that says them: a negation waits for the next validator, and
a message goes back to the last one. The optional rule sets the mode of the chain and nothing else,
so it does not matter where it is called.

Results:
* `call_eq`: what one call does.
* `build_eq`: what some calls do, in view of the calls before them.
* `build_optional`: the last call of the optional rule sets the mode.
* `call_saying_early`: a message without a validator is lost.
* `call_optional_comm`: the optional rule may be called earlier or later.
* `built_as_called`: the chain that calls build.
-/
namespace RequestValidation
namespace Chain

/-- A call that builds a chain on. -/
inductive Call where
  | rule (r : Rule) (args : Arguments)
  | negate
  | saying (m : Message)
  | when (condition : Condition)
  | bail
  | addField (field : String)

/-- The chain behind a call. -/
def call (c : Chain) : Call → Chain
  | .rule r args => c.rule r args
  | .negate => c.not
  | .saying m => c.saying m
  | .when condition => c.when condition
  | .bail => c.bail
  | .addField field => c.addField field

/-- The chain behind some calls. -/
def build (c : Chain) (calls : List Call) : Chain := calls.foldl call c

namespace Call

/-- Does the call queue a validator? The optional rule is never queued. -/
def checks : Call → Bool
  | rule r _ => r.checks && r != .optional
  | _ => false

def negates : Call → Bool
  | negate => true
  | _ => false

def message? : Call → Option Message
  | saying m => some m
  | _ => none

/-- The mode that the call sets. -/
def absence? : Call → Option Absence
  | rule r args => if r = .optional then some (.ofArguments args) else none
  | _ => none

def field? : Call → Option String
  | addField field => some field
  | _ => none

/-- The step that the call queues; a validator is negated or not and has a message or none. -/
def step? (negated : Bool) (message : Option Message) : Call → Option Step
  | rule r args =>
    if r = .optional then none
    else match r.role with
      | .validator => some (.validation ⟨r, args, negated, message⟩)
      | .sanitizer => some (.sanitization ⟨r, args⟩)
  | when condition => some (.condition condition)
  | bail => some .bail
  | _ => none

end Call

/-! ## One call -/

/-- A call gives its message to the last validator and queues its own step behind the others. A
negation waits until a validator is called. -/
theorem call_eq (c : Chain) (k : Call) :
    c.call k = ⟨c.fields ++ k.field?.toList, c.locations, c.message,
      said k.message? c.steps ++ (k.step? c.negateNext none).toList, k.absence?.or c.optional,
      !k.checks && (k.negates || c.negateNext)⟩ := by
  cases k with
  | rule r args =>
    by_cases hopt : r = .optional
    · subst hopt
      simp [call, rule, Call.field?, Call.message?, Call.step?, Call.absence?, Call.checks,
        Call.negates, said]
    · cases hr : r.role with
      | validator =>
        rw [call, rule_validator hr hopt]
        simp [addStep, Call.field?, Call.message?, Call.step?, Call.absence?, Call.checks,
          Rule.checks, said, hopt, hr]
      | sanitizer =>
        rw [call, rule_sanitizer hr]
        simp [addStep, Call.field?, Call.message?, Call.step?, Call.absence?, Call.checks,
          Call.negates, Rule.checks, said, hopt, hr]
  | negate | saying | when | bail | addField =>
    simp [call, Chain.not, saying, Chain.when, Chain.bail, addField, addStep, Call.field?,
      Call.message?, Call.step?, Call.absence?, Call.checks, Call.negates, said]

/-- The calls that queue a validator are those that check. -/
theorem hasValidation_step? (negated : Bool) (message : Option Message) (k : Call) :
    hasValidation (k.step? negated message).toList = k.checks := by
  cases k with
  | rule r args =>
    by_cases hopt : r = .optional
    · simp [Call.step?, Call.checks, hopt, hasValidation]
    · have hchecks : (Call.rule r args).checks = r.checks := by simp [Call.checks, hopt]
      rw [hchecks, Call.step?, if_neg hopt, Rule.checks]
      cases r.role <;> rfl
  | negate | saying | when | bail | addField => rfl

/-- A later message is for the step of the call if that is a validator, and else it goes to those
in front of it. -/
theorem said_step? (later : Option Message) (steps : List Step) (negated : Bool) (k : Call) :
    said later (steps ++ (k.step? negated none).toList) =
      (if k.checks then steps else said later steps) ++ (k.step? negated later).toList := by
  -- a step that is no validator lets the message through
  have through : ∀ s : Step, hasValidation [s] = false →
      said later (steps ++ [s]) = said later steps ++ [s] := by
    intro s hs
    rw [said_append, if_neg (by simp [hs])]
  cases k with
  | rule r args =>
    by_cases hopt : r = .optional
    · simp [Call.step?, Call.checks, hopt]
    · cases hr : r.role with
      | validator =>
        have hlast := said_last later steps ⟨r, args, negated, none⟩ (k := []) rfl
        simpa [Call.step?, Call.checks, Rule.checks, hopt, hr] using hlast
      | sanitizer =>
        simpa [Call.step?, Call.checks, Rule.checks, hopt, hr] using through _ rfl
  | when condition => exact through _ rfl
  | bail => exact through _ rfl
  | negate | saying | addField => simp [Call.step?, Call.checks]

/-! ## All the calls -/

/-- What the last of the calls gives that gives something. -/
def lastOf {α : Type} (f : Call → Option α) (calls : List Call) : Option α :=
  (calls.filterMap f).getLast?

/-- Is there a negation behind the last validator? -/
def negationWaits (calls : List Call) : Bool :=
  (calls.rtakeWhile fun k => !k.checks).any Call.negates

/-- The last message in front of the first validator. -/
def messageBack? (calls : List Call) : Option Message :=
  lastOf Call.message? (calls.takeWhile fun k => !k.checks)

/-- The steps that calls queue, call by call, behind other calls. A validator is negated if a
negation waits for it, and it has the last message that is given before the next validator. -/
def queued (before calls : List Call) : List Step :=
  (List.range calls.length).filterMap fun i =>
    calls[i]?.bind
      (Call.step? (negationWaits (before ++ calls.take i)) (messageBack? (calls.drop (i + 1))))

theorem lastOf_cons {α : Type} (f : Call → Option α) (k : Call) (calls : List Call) :
    lastOf f (k :: calls) = (lastOf f calls).or (f k) := by
  have hone : [k].filterMap f = (f k).toList := by cases hk : f k <;> simp [hk]
  rw [lastOf, ← List.singleton_append, List.filterMap_append, hone, List.getLast?_append, lastOf]
  cases f k <;> rfl

theorem negationWaits_concat (calls : List Call) (k : Call) :
    negationWaits (calls ++ [k]) = (!k.checks && (k.negates || negationWaits calls)) := by
  rw [negationWaits, List.rtakeWhile_concat]
  cases k.checks with
  | true => rfl
  | false => simp [negationWaits, Bool.or_comm]

theorem messageBack?_cons (k : Call) (calls : List Call) :
    messageBack? (k :: calls) =
      if k.checks then none else (messageBack? calls).or k.message? := by
  rw [messageBack?, List.takeWhile_cons]
  cases k.checks with
  | true => rfl
  | false => exact lastOf_cons Call.message? k _

theorem queued_cons (before : List Call) (k : Call) (behind : List Call) :
    queued before (k :: behind) =
      (k.step? (negationWaits before) (messageBack? behind)).toList ++
        queued (before ++ [k]) behind := by
  rw [queued, List.length_cons, List.range_succ_eq_map, List.filterMap_cons, List.filterMap_map,
    queued]
  simp only [List.getElem?_cons_zero, Option.bind_some, List.take_zero, List.append_nil,
    List.drop_succ_cons, List.drop_zero, Function.comp_def, Nat.succ_eq_add_one,
    List.getElem?_cons_succ, List.take_succ_cons, List.append_assoc, List.singleton_append]
  cases k.step? (negationWaits before) (messageBack? behind) <;> rfl

/-- A call that gives a message queues no validator. -/
theorem message?_of_checks {k : Call} (h : k.checks = true) : k.message? = none := by
  cases k with
  | rule => rfl
  | negate | saying | when | bail | addField => cases h

/-- Calls give a message back to the last validator that is there, and behind it come the steps
that they queue, in view of the calls before them. -/
theorem build_eq {c : Chain} {before : List Call} (hwaits : c.negateNext = negationWaits before)
    (calls : List Call) :
    c.build calls = ⟨c.fields ++ calls.filterMap Call.field?, c.locations, c.message,
      said (messageBack? calls) c.steps ++ queued before calls,
      (lastOf Call.absence? calls).or c.optional, negationWaits (before ++ calls)⟩ := by
  -- on the calls from the front: what is known of those behind is the message they give back
  induction calls generalizing c before with
  | nil =>
    obtain ⟨fields, locations, message, steps, optional, negateNext⟩ := c
    simp [build, messageBack?, lastOf, said, queued, ← hwaits]
  | cons k behind ih =>
    have hcall := call_eq c k
    have hnext : (c.call k).negateNext = negationWaits (before ++ [k]) := by
      rw [hcall, negationWaits_concat, hwaits]
    have hfields : k.field?.toList ++ behind.filterMap Call.field? =
        (k :: behind).filterMap Call.field? := by cases hk : k.field? <;> simp [hk]
    have hback : (if k.checks then said k.message? c.steps
          else said (messageBack? behind) (said k.message? c.steps)) =
        said (messageBack? (k :: behind)) c.steps := by
      rw [messageBack?_cons]
      cases hk : k.checks with
      | true => simp [message?_of_checks hk]
      | false => simp [said_said]
    rw [build, List.foldl_cons, ← build, ih hnext, hcall]
    simp only [said_step?, hback, queued_cons, hwaits, lastOf_cons, ← hfields, Option.or_assoc,
      List.append_assoc, List.singleton_append]

/-- The last call of the optional rule sets the mode. -/
theorem build_optional (c : Chain) (calls : List Call) :
    (c.build calls).optional = (lastOf Call.absence? calls).or c.optional := by
  cases hc : c.negateNext with
  | true => rw [@build_eq c [.negate] hc]
  | false => rw [@build_eq c [] hc]

theorem build_append (c : Chain) (front back : List Call) :
    c.build (front ++ back) = (c.build front).build back := List.foldl_append

/-! ## Calls that do nothing, and calls in another order -/

theorem hasValidation_build (c : Chain) (calls : List Call) :
    hasValidation (c.build calls).steps = (hasValidation c.steps || calls.any Call.checks) := by
  induction calls generalizing c with
  | nil => simp [build]
  | cons k calls ih =>
    rw [build, List.foldl_cons, ← build, ih, call_eq, hasValidation_append, hasValidation_said,
      hasValidation_step?, List.any_cons, Bool.or_assoc]

/-- A message without a validator is lost. -/
theorem call_saying_early {c : Chain} (h : hasValidation c.steps = false) (m : Message) :
    c.call (.saying m) = c := by
  have hsteps : said (some m) c.steps = c.steps := said_of_no_validation (some m) h
  obtain ⟨fields, locations, message, steps, optional, negateNext⟩ := c
  exact congrArg (Chain.mk fields locations message · optional negateNext) hsteps

/-- The optional rule may be called earlier or later, as long as it is not called in between. -/
theorem call_optional_comm (c : Chain) (args : Arguments) {k : Call} (hk : k.absence? = none) :
    (c.call (.rule .optional args)).call k = (c.call k).call (.rule .optional args) := by
  have hopt : ∀ d : Chain, d.call (.rule .optional args) =
      { d with optional := some (.ofArguments args) } := fun _ => rfl
  rw [hopt, hopt, call_eq, call_eq, hk]
  rfl

end Chain

open Chain

/-- **What calls come to.** Calls on a new chain queue their steps in their order. A validator is
negated if there is a negation behind the validator before it, and it has the last message that is
given before the next one, whatever else is called in between. A message before any validator is
lost. The last call of the optional rule sets the mode, and it may be called earlier or later, past
any call but another of its kind. -/
theorem built_as_called (field : String) (locations : List Location) (message : Option Message) :
    (∀ calls, (Chain.new field locations message).build calls =
        ⟨field :: calls.filterMap Call.field?, locations, message, queued [] calls,
          lastOf Call.absence? calls, negationWaits calls⟩) ∧
      (∀ before m behind, (∀ k ∈ before, k.checks = false) →
        (Chain.new field locations message).build (before ++ .saying m :: behind) =
          (Chain.new field locations message).build (before ++ behind)) ∧
      ∀ before args k behind, k.absence? = none →
        (Chain.new field locations message).build
            (before ++ .rule .optional args :: k :: behind) =
          (Chain.new field locations message).build
            (before ++ k :: .rule .optional args :: behind) := by
  refine ⟨?_, ?_, ?_⟩
  · intro calls
    have hnone : said (messageBack? calls) [] = [] := said_of_no_validation _ rfl
    rw [@build_eq (Chain.new field locations message) [] rfl]
    simp [Chain.new, hnone]
  · intro before m behind hbefore
    have hnone : hasValidation ((new field locations message).build before).steps = false := by
      rw [hasValidation_build]
      simpa [Chain.new, hasValidation] using hbefore
    rw [build_append, build_append, build, List.foldl_cons, call_saying_early hnone, ← build]
  · intro before args k behind hk
    rw [build_append, build_append]
    simp only [build, List.foldl_cons, call_optional_comm _ _ hk]

/-- A negation and a message on either side of other calls, a message that comes too early, and the
optional rule twice, the first time between the negation and its validator. -/
theorem email_as_called :
    (Chain.check "email").build [.rule .trim [], .saying (.fixed "early"), .negate,
        .rule .optional [.object [("nullable", .bool true)]], .rule .isEmpty [], .bail,
        .saying (.fixed "late"), .rule .optional [], .rule .isEmail []] =
      ⟨["email"], Location.all, none,
        [.sanitization ⟨.trim, []⟩, .validation ⟨.isEmpty, [], true, some (.fixed "late")⟩, .bail,
          .validation ⟨.isEmail, [], false, none⟩], some .missing, false⟩ ∧
    (∀ k ∈ [Call.rule .trim []], k.checks = false) ∧
    (Chain.check "email").build ([.rule .trim []] ++ [.saying (.fixed "early"), .negate]) =
      (Chain.check "email").build ([.rule .trim []] ++ [.negate]) ∧
    (Call.rule .isEmpty []).absence? = none ∧
    (Chain.check "email").build ([.negate] ++ [.rule .optional [], .rule .isEmpty []]) =
      (Chain.check "email").build ([.negate] ++ [.rule .isEmpty [], .rule .optional []]) := by
  obtain ⟨hcalls, hearly, hmoved⟩ := built_as_called "email" Location.all none
  have htrim : ∀ k ∈ [Call.rule .trim []], k.checks = false := by decide
  exact ⟨hcalls _, htrim, hearly _ _ _ htrim, rfl, hmoved _ _ _ _ rfl⟩

end RequestValidation
