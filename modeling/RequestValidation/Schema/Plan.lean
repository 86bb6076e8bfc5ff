import RequestValidation.Chain.Run
import RequestValidation.Schema.Basic
/-!
# Chains from schemas

A schema gives one chain per field, in order. Rules that are switched off leave no trace; a rule
that does not exist is left out and reported. The modifiers of a validator are put around it: its
condition and its negation before, its message and its bail behind. Sanitizers take none.

Results:
* `addUse_of_off`: a rule that is switched off changes nothing.
-/
namespace RequestValidation

/-- A finding about a schema that does not keep it from being used; mirrors `SchemaDiagnostic`. -/
inductive SchemaFinding where
  | unknownRule (field rule : String)
deriving DecidableEq, Repr

namespace SchemaFinding

def display : SchemaFinding → String
  | unknownRule field rule => "field '" ++ field ++ "': unknown rule '" ++ rule ++ "' was ignored"

def toJson : SchemaFinding → Json
  | unknownRule field rule =>
    .object [("type", .string "unknown_rule"), ("field", .string field), ("rule", .string rule)]

end SchemaFinding

/-- Chains and findings of a schema; mirrors `CompiledSchema`. -/
structure SchemaPlan where
  chains : List Chain
  findings : List SchemaFinding

/-- Names that are never rules; mirrors `RESERVED_KEYS`. -/
def reservedKeys : List String := ["in", "errorMessage"]

/-- Does the use of a rule in a field count? -/
def isActive (key : String) (u : RuleUse) : Bool :=
  !reservedKeys.contains key && u.isOn

namespace Chain

/-- Queues a validator with its modifiers. -/
def addValidator (c : Chain) (r : Rule) (args : Arguments) (m : Modifiers) : Chain :=
  let c := match m.condition with
    | some condition => c.when condition
    | none => c
  let c := if m.negated then c.not else c
  let c := c.rule r args
  let c := match m.message with
    | some text => c.saying text
    | none => c
  if m.bail then c.bail else c

/-- Queues what the use of a rule asks for. -/
def addUse (c : Chain) (key : String) (u : RuleUse) : Chain :=
  if isActive key u then
    match Rule.ofName? key with
    | none => c
    | some r =>
      match r.role, u with
      | .validator, .modified m => c.addValidator r u.arguments m
      | _, _ => c.rule r u.arguments
  else c

theorem addUse_of_off (c : Chain) (key : String) (u : RuleUse) (h : u.isOn = false) :
    c.addUse key u = c := by
  simp [addUse, isActive, h]

end Chain

namespace FieldSchema

/-- The chain of a field; mirrors `compile_field`. -/
def chain (f : FieldSchema) (field : String) (defaults : List Location) : Chain :=
  f.rules.foldl (fun c p => c.addUse p.1 p.2)
    (Chain.new field (LocationChoice.resolve f.locations defaults) f.message)

/-- The rules of a field that count but do not exist. -/
def unknownRules (f : FieldSchema) : List String :=
  (f.rules.filter fun p => isActive p.1 p.2 && (Rule.ofName? p.1).isNone).map Prod.fst

end FieldSchema

namespace Schema

/-- The chains of a schema; fields without a usable location are looked for in the defaults; mirrors
`check_schema_with_locations`. -/
def plan (s : Schema) (defaults : List Location) : SchemaPlan where
  chains := s.fields.map fun p => p.2.chain p.1 defaults
  findings := s.fields.flatMap fun p => p.2.unknownRules.map (.unknownRule p.1)

end Schema

/-- Runs every chain; the first fault in the order of the chains is that of the run; mirrors
`CompiledSchema.run`. -/
def SchemaPlan.run (s : SchemaPlan) (request : Request) :
    Except InvalidArguments (List ChainOutcome) :=
  s.chains.mapM (Chain.run request)

end RequestValidation
