import RequestValidation.Request.Basic
import RequestValidation.Request.Path
import RequestValidation.Text.Case
/-!
# Occurrences of fields

`occurrences` finds some fields in some locations of a request. A concrete path that is found in
one of the locations gives its found occurrences, one that is found in none gives a single missing
one at the first location that has it; a place counts once even if several fields reach it. In
headers a field is looked up in small letters.
-/
namespace RequestValidation

/-- A concrete field of a request; mirrors `FieldInstance`. -/
structure Occurrence where
  location : Location
  /-- The place, without wildcards. -/
  path : String
  /-- The field as it was asked for. -/
  field : String
  /-- Nothing if the field is missing. -/
  value : Option Json

namespace Occurrence

/-- Two occurrences at one place. -/
def samePlace (a b : Occurrence) : Bool := a.location == b.location && a.path == b.path

/-- Adds an occurrence unless its place is already there. -/
def addNew (found : List Occurrence) (i : Occurrence) : List Occurrence :=
  if found.any (·.samePlace i) then found else found ++ [i]

end Occurrence

/-- A field as it is looked up in a location. -/
def lookupPath (l : Location) (field : String) : String :=
  if l = .headers then Text.lower field else field

/-- What a location holds; `null` is nothing. -/
def Request.root? (r : Request) (l : Location) : Option Json :=
  match r.location l with
  | .null => none
  | v => some v

/-- The places that a field reaches in a location. -/
def reached (r : Request) (field : String) (l : Location) : List (String × Option Json) :=
  reach (r.root? l) (Segment.ofPath (lookupPath l field)) ""

/-- The places that a field reaches in all the locations, location by location. -/
def candidates (r : Request) (field : String) (locations : List Location) : List Occurrence :=
  locations.flatMap fun l =>
    (reached r field l).map fun p => ⟨l, p.1, field, p.2⟩

/-- Of the candidates for one path the found ones, or else the first. -/
def keepFound (same : List Occurrence) : List Occurrence :=
  let found := same.filter (·.value.isSome)
  if found.isEmpty then same.take 1 else found

/-- The occurrences of one field, path by path. -/
def occurrencesOf (r : Request) (locations : List Location) (field : String) :
    List Occurrence :=
  let all := candidates r field locations
  (distinct (all.map (·.path))).flatMap fun path => keepFound (all.filter (·.path == path))

/-- The occurrences of the fields in the locations, each place once; mirrors `select_fields`. -/
def occurrences (r : Request) (fields : List String) (locations : List Location) :
    List Occurrence :=
  (fields.flatMap (occurrencesOf r locations)).foldl Occurrence.addNew []

end RequestValidation
