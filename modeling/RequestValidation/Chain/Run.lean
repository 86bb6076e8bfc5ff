import RequestValidation.Chain.Basic
import RequestValidation.Chain.Report
import RequestValidation.Rule.Change
import RequestValidation.Rule.Check
/-!
# Running chains

A chain runs step by step, each step on every occurrence of its fields that is still going. A
sanitizer replaces the value of an occurrence, a validator records an error for each verdict
against it, and a condition that does not hold stops it. A bail that finds an error on any
occurrence ends the run for all of them. An argument that does not fit ends it with that fault.

Results:
* `advance_stopped`: a stopped occurrence stays as it is.
* `runSteps_nil`: without steps nothing happens.
-/
namespace RequestValidation

/-- The message of an error when neither the validator nor the chain has one; mirrors
`DEFAULT_MESSAGE`. -/
def defaultMessage : String := "Invalid value"

/-- An occurrence on its way through the steps; mirrors `Progress`. -/
structure Walk where
  current : Occurrence
  errors : List Violation
  stopped : Bool

namespace Walk

/-- An occurrence before the first step. -/
def start (o : Occurrence) : Walk := ⟨o, [], false⟩

/-- What messages and predicates get to see, for a value of the occurrence. -/
def context (w : Walk) (request : Request) (value : Option Json) : FieldView :=
  ⟨w.current.location, w.current.path, value, request⟩

/-- The message of the validator, else that of the chain, else the default. -/
def messageText (own chain : Option Message) (context : FieldView) : String :=
  match own.or chain with
  | some m => m.render context
  | none => defaultMessage

/-- The error for a verdict. -/
def errorFor (w : Walk) (request : Request) (own chain : Option Message) (v : Verdict) :
    Violation :=
  ⟨w.current.location, w.current.path, v.value,
    messageText own chain (w.context request v.value)⟩

/-- A fault in the arguments of a rule. -/
def blame {α : Type} (r : Rule) (result : Except ArgumentError α) : Except InvalidArguments α :=
  result.mapError fun cause => ⟨r, cause⟩

def change (w : Walk) (s : Sanitization) : Except InvalidArguments Walk := do
  let value ← blame s.rule (s.rule.change s.args w.current.value)
  .ok { w with current := { w.current with value } }

/-- A verdict counts against the occurrence when it passed just if it should not have. -/
def validate (w : Walk) (request : Request) (chain : Option Message) (v : Validation) :
    Except InvalidArguments Walk := do
  let verdicts ← blame v.rule (v.rule.verdicts v.args w.current.value)
  let against := verdicts.filter (·.passed == v.negated)
  .ok { w with errors := w.errors ++ against.map (w.errorFor request v.message chain) }

end Walk

/-- Is there an error on any occurrence? -/
def anyErrors (walks : List Walk) : Bool := walks.any (!·.errors.isEmpty)

/-- The outcome of a chain when all its steps are done. -/
def Chain.outcome (c : Chain) (walks : List Walk) : ChainOutcome :=
  ⟨c.fields, c.locations, walks.flatMap (·.errors), walks.map (·.current)⟩

/-- The occurrences that the chain works on. -/
def Chain.targets (c : Chain) (request : Request) : List Occurrence :=
  (occurrences request c.fields c.locations).filter fun o =>
    !c.optional.any (·.covers o.value)

mutual

/-- Does the condition hold for the occurrence? -/
def Condition.holds (request : Request) : Condition → Walk → Except InvalidArguments Bool
  | .predicate p, w => .ok (p (w.context request w.current.value))
  | .chain c, _ => do
    let r ← c.run request
    .ok r.isEmpty

/-- One step on one occurrence; mirrors `apply`. -/
def Step.advance (request : Request) (chain : Option Message) :
    Step → Walk → Except InvalidArguments Walk
  | .validation v, w => if w.stopped then .ok w else w.validate request chain v
  | .sanitization s, w => if w.stopped then .ok w else w.change s
  | .condition c, w =>
    if w.stopped then .ok w
    else do
      let proceed ← c.holds request w
      .ok { w with stopped := !proceed }
  | .bail, w => .ok w

/-- The steps in order, each on every occurrence. -/
def runSteps (request : Request) (chain : Option Message) :
    List Step → List Walk → Except InvalidArguments (List Walk)
  | [], walks => .ok walks
  | step :: rest, walks =>
    if step matches .bail && anyErrors walks then .ok walks
    else do
      let next ← walks.mapM (step.advance request chain)
      runSteps request chain rest next

/-- Runs a chain against a request; mirrors `ValidationChain.execute`. -/
def Chain.run (request : Request) : Chain → Except InvalidArguments ChainOutcome
  | ⟨fields, locations, message, steps, optional, negateNext⟩ => do
    let c : Chain := ⟨fields, locations, message, steps, optional, negateNext⟩
    let done ← runSteps request message steps ((c.targets request).map Walk.start)
    .ok (c.outcome done)

end

theorem advance_stopped (request : Request) (chain : Option Message) (s : Step) (w : Walk)
    (h : w.stopped = true) : s.advance request chain w = .ok w := by
  cases s <;> simp [Step.advance, h]

theorem runSteps_nil (request : Request) (chain : Option Message) (walks : List Walk) :
    runSteps request chain [] walks = .ok walks := by simp [runSteps]

end RequestValidation
