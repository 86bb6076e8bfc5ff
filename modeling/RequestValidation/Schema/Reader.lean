import RequestValidation.Json.Reader
import RequestValidation.Schema.Basic
/-!
# Reading schemas

A schema is written as an object with a member per field, a field as an object in which `in` and
`errorMessage` are reserved and every other member is a rule. The setting of a rule is a boolean,
`null`, or modifiers; these are an object or their list in order, as long as each of them has the
right type. Whatever fits none of these is kept as it is, so no rule makes a schema unreadable.
-/
namespace RequestValidation

/-- Why a document is no schema. -/
inductive SchemaFault where
  /-- Not an object but of some other kind. -/
  | notFields (kind : String)
  | invalidJson (e : Json.SyntaxError)
  | wrongType (found : Json.Found) (expected : String)
  | invalidLocations
deriving Repr

namespace SchemaFault

def message : SchemaFault → String
  | notFields kind => "expected an object of field configurations, got " ++ kind
  | invalidJson e => "invalid JSON: " ++ e.text
  | wrongType found expected => (Json.Cause.wrongType found expected).text
  | invalidLocations => "data did not match any variant of untagged enum LocationSpec"

/-- Does a fault of the document lie behind it, rather than the lack of an object? -/
def hasSource : SchemaFault → Bool
  | notFields _ => false
  | _ => true

end SchemaFault

/-- A string or an array of strings. -/
def LocationChoice.ofJson? : Json → Option LocationChoice
  | .string name => some (.one name)
  | .array items => (items.mapM Json.string?).map .many
  | _ => none

/-- A message among modifiers: a string, or `null` for none. -/
def Modifiers.message? : Json → Option (Option Message)
  | .null => some none
  | .string s => some (some (.fixed s))
  | _ => none

namespace Modifiers

/-- The names of the modifiers in order. -/
def names : List String := ["options", "errorMessage", "negated", "bail"]

/-- The modifiers with one of them set; nothing if the value has the wrong type. -/
def set? (u : Modifiers) (name : String) (v : Json) : Option Modifiers :=
  if name = "options" then some { u with arguments := if v.isNull then none else some v }
  else if name = "errorMessage" then (message? v).map fun m => { u with message := m }
  else if name = "negated" then v.bool?.map fun b => { u with negated := b }
  else if name = "bail" then v.bool?.map fun b => { u with bail := b }
  else some u

/-- Modifiers from an object, in which other members are ignored, or from a list in order. -/
def ofJson? : Json → Option Modifiers
  | .object ms => ms.foldlM (fun u p => u.set? p.1 p.2) {}
  | .array items =>
    if items.length ≤ names.length then
      (names.zip items).foldlM (fun u p => u.set? p.1 p.2) {}
    else none
  | _ => none

end Modifiers

namespace RuleUse

/-- The use that a document asks for. -/
def ofJson : Json → RuleUse
  | .bool b => .switch b
  | .null => .null
  | v =>
    match Modifiers.ofJson? v with
    | some u => .modified u
    | none => .other v

end RuleUse

namespace FieldSchema

/-- One member of a field's object. -/
def add (f : FieldSchema) (key : String) (v : Json) : Except SchemaFault FieldSchema :=
  if key = "in" then
    match v with
    | .null => .ok { f with locations := none }
    | v =>
      match LocationChoice.ofJson? v with
      | some choice => .ok { f with locations := some choice }
      | none => .error .invalidLocations
  else if key = "errorMessage" then
    match v with
    | .null => .ok { f with message := none }
    | .string s => .ok { f with message := some (.fixed s) }
    | v => .error (.wrongType (.of v) "a string")
  else .ok { f with rules := Members.insert f.rules key (.ofJson v) }

def ofJson : Json → Except SchemaFault FieldSchema
  | .object ms => ms.foldlM (fun f p => f.add p.1 p.2) {}
  | v => .error (.wrongType (.of v) "struct ParamSchema")

end FieldSchema

namespace Schema

/-- The kind of a document that is no object. -/
def kindOf : Json → Option String
  | .null => some "null"
  | .bool _ => some "a boolean"
  | .number _ => some "a number"
  | .string _ => some "a string"
  | .array _ => some "an array"
  | .object _ => none

/-- The schema that a document is; mirrors `Schema.from_value`. -/
def ofJson (v : Json) : Except SchemaFault Schema :=
  match v with
  | .object ms => do
    let fields ← ms.mapM fun p => do
      let f ← FieldSchema.ofJson p.2
      .ok (p.1, f)
    .ok ⟨fields⟩
  | v => .error (.notFields ((kindOf v).getD ""))

/-- The schema that a JSON text is; mirrors `Schema.from_json_str`. -/
def read (text : String) : Except SchemaFault Schema :=
  match Json.read text with
  | .ok v => ofJson v
  | .error e => .error (.invalidJson e)

end Schema

end RequestValidation
