import RequestValidation.Decimal.Numeral
import RequestValidation.Json.Basic
/-!
# Field paths

A field is written as a path: keys with points between them, indices and quoted keys in brackets,
and `*` for every item or member. A path is expanded against a value into the concrete places that
it reaches, each with its own spelling and with the value found there; what is not there is
missing, except under a wildcard, which reaches only what is there.

Results:
* `appendName_empty`: the first key of a path has no point before it.
-/
namespace RequestValidation

/-- One step of a path; mirrors `Segment`. -/
inductive Segment where
  | key (k : String)
  | index (i : Nat)
  | wildcard
deriving DecidableEq, Repr

namespace Segment

/-- A key, unless it is the sign for every item; mirrors `key_segment`. -/
def ofKey (k : List Char) : Segment :=
  if k = ['*'] then .wildcard else .key (String.ofList k)

/-- The largest index. -/
def maxIndex : Nat := Nat.pow 2 64 - 1

def isQuote (c : Char) : Bool := c = '"' || c = '\''

/-- What stands between two brackets: an index, or a key that may be quoted. -/
def ofBracket (inner : List Char) : Segment :=
  match natUpTo? maxIndex inner with
  | some i => .index i
  | none => ofKey ((inner.dropWhile isQuote).reverse.dropWhile isQuote).reverse

/-- The bracketed tail of a part. `inside` holds in reverse what follows a bracket that is still
open; a tail that is no bracket, or one that is never closed, is a key as it stands. -/
def ofTail (inside : Option (List Char)) : List Char → List Segment
  | [] =>
    match inside with
    | none => []
    | some inner => [.key (String.ofList ('[' :: inner.reverse))]
  | c :: rest =>
    match inside with
    | none => if c = '[' then ofTail (some []) rest else [.key (String.ofList (c :: rest))]
    | some inner =>
      if c = ']' then ofBracket inner.reverse :: ofTail none rest
      else ofTail (some (c :: inner)) rest

/-- The steps of a part between two points: a key, if it begins with one, and its tail. -/
def ofPart (part : List Char) : List Segment :=
  let head := part.takeWhile (· ≠ '[')
  let tail := ofTail none (part.dropWhile (· ≠ '['))
  if head.isEmpty then tail else ofKey head :: tail

/-- The steps of a path. Empty parts do not count. Mirrors `parse_path`. -/
def ofPath (path : String) : List Segment :=
  ((path.toList.splitOn '.').filter (!·.isEmpty)).flatMap ofPart

end Segment

/-- A key behind a path; mirrors `join_key`. -/
def appendName (path key : String) : String :=
  if path = "" then key else path ++ "." ++ key

/-- An index behind a path. -/
def appendIndex (path : String) (i : Nat) : String := path ++ "[" ++ toString i ++ "]"

theorem appendName_empty (key : String) : appendName "" key = key := by simp [appendName]

/-- The item at an index: of an array by position, of an object by the key that spells it. -/
def Json.index? (v : Json) (i : Nat) : Option Json :=
  match v with
  | .array items => items[i]?
  | .object ms => Members.get? ms (toString i)
  | _ => none

/-- The places that a path reaches from a value at `path`, in order; mirrors `expand`. -/
def reach (v : Option Json) : List Segment → String → List (String × Option Json)
  | [], path => [(path, v)]
  | .wildcard :: rest, path =>
    match v with
    | some (.array items) =>
      items.zipIdx.flatMap fun p => reach (some p.1) rest (appendIndex path p.2)
    | some (.object ms) => ms.flatMap fun p => reach (some p.2) rest (appendName path p.1)
    | _ => []
  | .key k :: rest, path => reach (v.bind (·.member? k)) rest (appendName path k)
  | .index i :: rest, path => reach (v.bind (·.index? i)) rest (appendIndex path i)

end RequestValidation
