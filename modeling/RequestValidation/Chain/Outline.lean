import RequestValidation.Chain.Basic
/-!
# Outlines of chains

An outline holds what can be told about a chain without running it: computed messages,
predicates and chains within conditions are named only by their kind.
-/
namespace RequestValidation

/-- Mirrors `StepDescription`. -/
inductive StepOutline where
  | validation (rule : Rule) (args : Arguments) (negated : Bool) (message : Option String)
  | sanitization (rule : Rule) (args : Arguments)
  /-- The kind of condition. -/
  | condition (kind : String)
  | bail

/-- Mirrors `ChainDescription`. -/
structure ChainOutline where
  fields : List String
  locations : List Location
  optional : Option Absence
  message : Option String
  steps : List StepOutline

def Condition.kind : Condition → String
  | .predicate _ => "predicate"
  | .chain _ => "chain"

def Step.outline : Step → StepOutline
  | .validation v => .validation v.rule v.args v.negated (v.message.map Message.label)
  | .sanitization s => .sanitization s.rule s.args
  | .condition c => .condition c.kind
  | .bail => .bail

/-- Mirrors `ValidationChain.describe`. -/
def Chain.outline (c : Chain) : ChainOutline :=
  ⟨c.fields, c.locations, c.optional, c.message.map Message.label, c.steps.map Step.outline⟩

/-- A member that is left out if it has no value. -/
def optionalMember (key : String) (value : Option Json) : List (String × Json) :=
  match value with
  | some v => [(key, v)]
  | none => []

/-- The arguments of a rule; none are left out. -/
def argumentsMember (args : Arguments) : List (String × Json) :=
  if args.isEmpty then [] else [("args", .array args)]

def StepOutline.toJson : StepOutline → Json
  | validation rule args negated message =>
    .object ([("type", .string "validation"), ("rule", .string rule.name)] ++
      argumentsMember args ++ [("negated", .bool negated)] ++
      optionalMember "message" (message.map .string))
  | sanitization rule args =>
    .object ([("type", .string "sanitization"), ("rule", .string rule.name)] ++
      argumentsMember args)
  | condition kind => .object [("type", .string "condition"), ("kind", .string kind)]
  | bail => .object [("type", .string "bail")]

def ChainOutline.toJson (d : ChainOutline) : Json :=
  .object ([("fields", .array (d.fields.map .string)),
      ("locations", .array (d.locations.map fun l => .string l.name))] ++
    optionalMember "optional" (d.optional.map fun m => .string m.name) ++
    optionalMember "message" (d.message.map .string) ++
    [("steps", .array (d.steps.map StepOutline.toJson))])

end RequestValidation
