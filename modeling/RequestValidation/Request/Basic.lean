import RequestValidation.Json.Fault
import RequestValidation.Request.Location
/-!
# Requests

An incoming request holds one JSON value per location; a location that was not sent is `null`.
`Request.ofJson` reads a request document: an object with a member per location, in which others
are ignored, or up to five values in canonical order.
-/
namespace RequestValidation

/-- Mirrors `Request`. -/
structure Request where
  body : Json := .null
  cookies : Json := .null
  headers : Json := .null
  params : Json := .null
  query : Json := .null
deriving Inhabited

namespace Request

/-- What the request holds at a location; mirrors `Request.location`. -/
def location (r : Request) : Location → Json
  | .body => r.body
  | .cookies => r.cookies
  | .headers => r.headers
  | .params => r.params
  | .query => r.query

/-- The request with another value at a location; mirrors `Request.with`. -/
def set (r : Request) (l : Location) (v : Json) : Request :=
  match l with
  | .body => { r with body := v }
  | .cookies => { r with cookies := v }
  | .headers => { r with headers := v }
  | .params => { r with params := v }
  | .query => { r with query := v }

/-- The request in which the locations get values in canonical order as long as there are any. -/
def ofList (vs : List Json) : Request :=
  (Location.all.zip vs).foldl (fun r p => r.set p.1 p.2) {}

/-- Why a document is no request. -/
inductive Fault where
  | wrongType (found : Json.Found)
  | tooManyValues (count : Nat)
deriving DecidableEq, Repr

def Fault.message : Fault → String
  | wrongType found => (Json.Cause.wrongType found "struct Request").text
  | tooManyValues count =>
    "invalid length " ++ toString count ++ ", expected fewer elements in array"

/-- The request that a document is. -/
def ofJson : Json → Except Fault Request
  | .object ms =>
    .ok (Location.all.foldl (fun r l =>
      match Members.get? ms l.name with
      | some v => r.set l v
      | none => r) {})
  | .array vs =>
    if vs.length ≤ Location.all.length then .ok (ofList vs) else .error (.tooManyValues vs.length)
  | v => .error (.wrongType (.of v))

/-- The request as an object with a member per location. -/
def toJson (r : Request) : Json :=
  .object (Location.all.map fun l => (l.name, r.location l))

end Request

end RequestValidation
