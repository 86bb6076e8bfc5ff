import RequestValidation.Members
/-!
# Shapes of settings

What a settings document may look like, said once for every notation it can be written in: text,
a flag, something that may be `null`, a list, or a record whose fields may each be left out. A
record is written as an object, in which other names are passed over, or as a list of its fields
from the first one on.
-/
namespace RequestValidation

inductive Shape where
  | text
  | flag
  | optional (s : Shape)
  | list (s : Shape)
  | record (name : String) (fields : List (String × Shape))

namespace Shape

/-- How messages name what is expected. -/
def expected : Shape → String
  | text => "a string"
  | flag => "a boolean"
  | optional s => s.expected
  | list _ => "a sequence"
  | record name _ => "struct " ++ name

end Shape

/-- What is written in a document of some shape. -/
inductive Setting where
  | absent
  | text (s : String)
  | flag (b : Bool)
  | list (items : List Setting)
  | record (fields : List (String × Setting))
deriving Inhabited

namespace Setting

def text? : Setting → Option String
  | text s => some s
  | _ => none

def flag? : Setting → Option Bool
  | flag b => some b
  | _ => none

def items : Setting → List Setting
  | list vs => vs
  | _ => []

/-- A field of a record; one that is not written is absent. -/
def field (v : Setting) (name : String) : Setting :=
  match v with
  | record ms => (Members.get? ms name).getD absent
  | _ => absent

end Setting

end RequestValidation
