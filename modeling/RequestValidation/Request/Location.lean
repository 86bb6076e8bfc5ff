/-!
# Request locations

The five parts of a request in which a field may be found, and the order in which they are listed.

Results:
* `ofName?_name`, `name_of_ofName?`: a location is known by its name and by nothing else.
* `mem_distinct`, `nodup_distinct`: `distinct` keeps every element of a list, once.
-/
namespace RequestValidation

/-- Mirrors `Location`. -/
inductive Location where
  | body
  | cookies
  | headers
  | params
  | query
deriving DecidableEq, Repr

namespace Location

/-- Every location in canonical order; mirrors `Location.ALL`. -/
def all : List Location := [body, cookies, headers, params, query]

/-- The name in schemas and in output; mirrors `Location.as_str`. -/
def name : Location → String
  | body => "body"
  | cookies => "cookies"
  | headers => "headers"
  | params => "params"
  | query => "query"

/-- The location with a name; letter case and blanks matter; mirrors `Location.from_str`. -/
def ofName? (s : String) : Option Location := all.find? fun l => l.name = s

theorem ofName?_name (l : Location) : ofName? l.name = some l := by cases l <;> decide

theorem name_of_ofName? {s : String} {l : Location} (h : ofName? s = some l) : l.name = s := by
  have := List.find?_some h
  simpa using this

end Location

/-- The elements of a list in the order of their first occurrence. -/
def distinct {α : Type} [DecidableEq α] : List α → List α
  | [] => []
  | a :: l => a :: (distinct l).filter (· ≠ a)

theorem mem_distinct {α : Type} [DecidableEq α] (a : α) (l : List α) :
    a ∈ distinct l ↔ a ∈ l := by
  induction l with
  | nil => simp [distinct]
  | cons b l ih =>
    by_cases h : a = b
    · simp [distinct, h]
    · simp [distinct, ih, h]

theorem nodup_distinct {α : Type} [DecidableEq α] (l : List α) : (distinct l).Nodup := by
  induction l with
  | nil => simp [distinct]
  | cons b l ih =>
    refine List.nodup_cons.mpr ⟨by simp, ?_⟩
    exact List.Nodup.sublist List.filter_sublist ih

end RequestValidation
