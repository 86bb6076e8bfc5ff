import RequestValidation.Decimal.Shortest
import RequestValidation.Members
/-!
# JSON values

A JSON document as a value. Objects keep their members in document order. A number is an integer
when its text is one that fits 64 bits, signed or not, and a finite binary64 number otherwise, so
`1` and `1.0` are different documents.
-/
namespace RequestValidation

/-- A JSON number. -/
inductive Number where
  | int (i : Int)
  | float (x : Binary64)
deriving DecidableEq, Repr

namespace Number

/-- Shortest text that reads back as the same number. -/
def render (style : FloatStyle) : Number → String
  | .int i => toString i
  | .float x => x.render style

/-- The number as binary64, an integer rounded to the nearest. -/
def toBinary64 : Number → Binary64
  | .int i => .ofInt i
  | .float x => x

def isZero : Number → Bool
  | .int i => i == 0
  | .float x => x.isZero

/-- The text of a number in JSON. -/
def text (n : Number) : String := n.render .signed

end Number

/-- A JSON document. -/
inductive Json where
  | null
  | bool (b : Bool)
  | number (n : Number)
  | string (s : String)
  | array (items : List Json)
  | object (members : List (String × Json))
deriving Repr, Inhabited

namespace Json

/-- An integer document. -/
def int (i : Int) : Json := .number (.int i)

/-- A document for an optional value; the absent one is `null`. -/
def ofOption {α : Type} (f : α → Json) : Option α → Json
  | none => .null
  | some a => f a

def isNull : Json → Bool
  | .null => true
  | _ => false

def bool? : Json → Option Bool
  | .bool b => some b
  | _ => none

def string? : Json → Option String
  | .string s => some s
  | _ => none

def members? : Json → Option (Members Json)
  | .object ms => some ms
  | _ => none

/-- A member of an object; nothing else has members. -/
def member? (v : Json) (key : String) : Option Json :=
  v.members?.bind fun ms => Members.get? ms key

end Json

end RequestValidation
