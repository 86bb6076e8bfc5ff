import RequestValidation.Json.Text
import RequestValidation.Request.Basic
import RequestValidation.Rule.Arguments
import RequestValidation.Text.Quoted
/-!
# Validation chains

A chain looks for some fields in some locations and holds an ordered list of steps: rules that
check a value, rules that change it, conditions on which the remaining steps depend, and bails,
behind which nothing happens once there is an error. A condition is a predicate or another chain.

Chains are built call by call. Building only queues steps.

Results:
* `render_of_isFixed`: the label of a fixed message is its text.
* `rule_optional_steps`: the optional rule adds no step.
-/
namespace RequestValidation

/-- What a computed message or a predicate gets to see of a field; mirrors `FieldContext`. -/
structure FieldView where
  location : Location
  path : String
  /-- The value as it is now, nothing if the field is missing. -/
  value : Option Json
  request : Request

/-- The message of an error; mirrors `Message`. -/
inductive Message where
  | fixed (text : String)
  | computed (text : FieldView → String)

namespace Message

/-- Mirrors `Message.render`. -/
def render : Message → FieldView → String
  | fixed text, _ => text
  | computed text, context => text context

/-- The text that stands for the message in a description; mirrors `Message.label`. -/
def label : Message → String
  | fixed text => text
  | computed _ => "<dynamic>"

/-- Whether the message is the same text everywhere. -/
def IsFixed : Message → Prop
  | fixed _ => True
  | computed _ => False

theorem render_of_isFixed {m : Message} (h : m.IsFixed) (context : FieldView) :
    m.render context = m.label := by
  cases m with
  | fixed text => rfl
  | computed text => exact absurd h id

/-- The text for diagnostics. -/
def diagnostic : Message → String
  | fixed text => "Static(" ++ Text.quoted text ++ ")"
  | computed _ => "Dynamic(..)"

end Message

/-- Which values make an optional chain skip a field; mirrors `OptionalMode`. -/
inductive Absence where
  | missing
  | nullable
  | falsy
deriving DecidableEq, Repr

namespace Absence

def name : Absence → String
  | missing => "undefined"
  | nullable => "nullable"
  | falsy => "falsy"

/-- Is the option of the first argument set to `true`? -/
def isOn (args : Arguments) (key : String) : Bool :=
  (args.head?.bind (·.member? key)).any fun v => v.bool? == some true

/-- The mode that the arguments of the optional rule ask for; mirrors `OptionalMode.from_args`. -/
def ofArguments (args : Arguments) : Absence :=
  if isOn args "checkFalsy" then falsy
  else if isOn args "nullable" then nullable
  else missing

/-- Mirrors `OptionalMode.skips`. -/
def covers : Absence → Option Json → Bool
  | missing, value => value.isNone
  | nullable, value => value.all Json.isNull
  | falsy, value => Json.isFalsy value

end Absence

/-- A queued validator. A negated one fails where the rule passes. Mirrors `ValidationStep`. -/
structure Validation where
  rule : Rule
  args : Arguments
  negated : Bool
  message : Option Message

/-- A queued sanitizer; mirrors `SanitizationStep`. -/
structure Sanitization where
  rule : Rule
  args : Arguments

mutual

/-- What the remaining steps depend on; mirrors `Condition`. -/
inductive Condition where
  | predicate (holds : FieldView → Bool)
  /-- Holds when the chain finds no error. -/
  | chain (c : Chain)

/-- Mirrors `Step`. -/
inductive Step where
  | validation (v : Validation)
  | sanitization (s : Sanitization)
  | condition (c : Condition)
  | bail

/-- Ordered steps for some fields in some locations; mirrors `ValidationChain`. -/
structure Chain where
  fields : List String
  locations : List Location
  /-- The message of errors whose validator has none. -/
  message : Option Message
  steps : List Step
  optional : Option Absence
  /-- Will the next validator be negated? -/
  negateNext : Bool

end

/-- The text for diagnostics of a predicate. -/
def Condition.diagnostic? : Condition → Option String
  | .predicate _ => some "Predicate(..)"
  | .chain _ => none

namespace Chain

/-- A chain without steps for one field; mirrors `ValidationChain.new`. -/
def new (field : String) (locations : List Location) (message : Option Message) : Chain :=
  ⟨[field], locations, message, [], none, false⟩

/-- A chain without steps for one field in every location; mirrors `ValidationChain.check`. -/
def check (field : String) : Chain := new field Location.all none

/-- The same steps for one more field; mirrors `ValidationChain.and_field`. -/
def addField (c : Chain) (field : String) : Chain := { c with fields := c.fields ++ [field] }

def addStep (c : Chain) (s : Step) : Chain := { c with steps := c.steps ++ [s] }

/-- Queues a rule. A validator uses up a pending negation; the optional rule sets the mode of the
chain and adds no step. Mirrors `ValidationChain.rule`. -/
def rule (c : Chain) (r : Rule) (args : Arguments) : Chain :=
  if r = .optional then { c with optional := some (.ofArguments args) }
  else match r.role with
    | .validator =>
      { c.addStep (.validation ⟨r, args, c.negateNext, none⟩) with negateNext := false }
    | .sanitizer => c.addStep (.sanitization ⟨r, args⟩)

/-- Lets the remaining steps depend on a condition; mirrors `ValidationChain.when`. -/
def when (c : Chain) (condition : Condition) : Chain := c.addStep (.condition condition)

/-- Negates the next validator. -/
protected def not (c : Chain) : Chain := { c with negateNext := true }

/-- Steps in which the last validator has a message; nothing if there is no validator. -/
def setLastMessage? (m : Message) : List Step → Option (List Step)
  | [] => none
  | s :: rest =>
    match setLastMessage? m rest with
    | some changed => some (s :: changed)
    | none =>
      match s with
      | .validation v => some (.validation { v with message := some m } :: rest)
      | _ => none

/-- Gives the last validator its message; mirrors `ValidationChain.with_message`. -/
def saying (c : Chain) (m : Message) : Chain :=
  { c with steps := (setLastMessage? m c.steps).getD c.steps }

/-- Ends the run here if there are errors; mirrors `ValidationChain.bail`. -/
def bail (c : Chain) : Chain := c.addStep .bail

theorem rule_optional_steps (c : Chain) (args : Arguments) :
    (c.rule .optional args).steps = c.steps := by simp [rule]

end Chain

end RequestValidation
