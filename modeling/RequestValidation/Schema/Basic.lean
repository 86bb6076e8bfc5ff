import RequestValidation.Chain.Basic
/-!
# Schemas

A schema names fields in order. A field has the locations to look in, a message for its errors and
rules with the use made of each; rules are known by name only, so a schema may name rules that do
not exist. A rule is used by a plain switch or with modifiers.
-/
namespace RequestValidation

/-- Location names as they stand in a schema; mirrors `LocationSpec`. -/
inductive LocationChoice where
  | one (name : String)
  | many (names : List String)
deriving Repr

namespace LocationChoice

/-- Mirrors `LocationSpec.entries`. -/
def names : LocationChoice → List String
  | one name => [name]
  | many names => names

/-- The distinct locations among the names, or the distinct defaults if there are none; mirrors
`resolve_locations`. -/
def resolve (choice : Option LocationChoice) (defaults : List Location) : List Location :=
  let named := ((choice.map names).getD []).filterMap Location.ofName?
  if named.isEmpty then distinct defaults else distinct named

end LocationChoice

/-- What a schema may say about a rule that it uses; mirrors `RuleOptions`. -/
structure Modifiers where
  /-- The arguments: an array stands for its items, anything else for itself. -/
  arguments : Option Json := none
  message : Option Message := none
  negated : Bool := false
  bail : Bool := false
  condition : Option Condition := none

/-- How a schema uses a rule; mirrors `RuleEntry`. -/
inductive RuleUse where
  | switch (on : Bool)
  | modified (m : Modifiers)
  | null
  | other (v : Json)

namespace RuleUse

/-- Is the rule switched on? Whatever is falsy switches it off. Mirrors `RuleEntry.is_enabled`. -/
def isOn : RuleUse → Bool
  | switch on => on
  | modified _ => true
  | null => false
  | other v => !Json.isFalsy (some v)

/-- The arguments of the rule. Only modifiers carry some, and falsy ones do not count. Mirrors
`rule_arguments`. -/
def arguments : RuleUse → Arguments
  | modified m =>
    if Json.isFalsy m.arguments then []
    else match m.arguments with
      | some (.array items) => items
      | some v => [v]
      | none => []
  | _ => []

end RuleUse

/-- The configuration of a field; mirrors `ParamSchema`. -/
structure FieldSchema where
  locations : Option LocationChoice := none
  message : Option Message := none
  rules : Members RuleUse := []

/-- Configurations of fields by name, in order; mirrors `Schema`. -/
structure Schema where
  fields : Members FieldSchema := []

end RequestValidation
