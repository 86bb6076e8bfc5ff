import RequestValidation.Request.Occurrence
/-!
# Outcomes of chains

A chain that has run gives its errors and the occurrences it worked on, with the values that the
sanitizers left. A report merges the results of several chains: its matched data are the values
of fields that no chain of all complains about.

Results:
* `keys_firstByPath`: every path with an error is mapped.
* `outcome_isOk_iff`: there are data exactly when there is no error.
-/
namespace RequestValidation

/-- A validator that failed; mirrors `FieldError`. -/
structure Violation where
  location : Location
  path : String
  /-- The value that was checked, nothing if the field is missing. -/
  value : Option Json
  message : String

/-- The error in one line. -/
def Violation.display (e : Violation) : String :=
  e.location.name ++ "." ++ e.path ++ ": " ++ e.message

/-- The first error of each path, in order; mirrors `first_per_path`. -/
def firstByPath (errors : List Violation) : Members Violation :=
  errors.foldl (fun ms e => Members.insertNew ms e.path e) []

/-- What a run of a chain gives; mirrors `ChainResult`. -/
structure ChainOutcome where
  fields : List String
  locations : List Location
  errors : List Violation
  data : List Occurrence

namespace ChainOutcome

def isEmpty (r : ChainOutcome) : Bool := r.errors.isEmpty

def mapped (r : ChainOutcome) : Members Violation := firstByPath r.errors

end ChainOutcome

/-- Errors and data of several chains; mirrors `ValidationReport`. -/
structure Report where
  errors : List Violation
  data : List Occurrence

namespace Report

/-- Mirrors `ValidationReport.from_results`. -/
def ofOutcomes (outcomes : List ChainOutcome) : Report :=
  ⟨outcomes.flatMap (·.errors), outcomes.flatMap (·.data)⟩

/-- Mirrors `ValidationReport.is_ok`. -/
def isOk (r : Report) : Bool := r.errors.isEmpty

/-- Mirrors `ValidationReport.mapped`. -/
def mapped (r : Report) : Members Violation := firstByPath r.errors

/-- Is there an error at the place of the occurrence? -/
def failed (r : Report) (o : Occurrence) : Bool :=
  r.errors.any fun e => e.location == o.location && e.path == o.path

/-- The values of fields that passed every check, the first of each path; mirrors
`ValidationReport.matched_data`. -/
def matched (r : Report) : Members Json :=
  r.data.foldl (fun ms o =>
    match o.value with
    | some v => if r.failed o then ms else Members.insertNew ms o.path v
    | none => ms) []

/-- The matched data, or the report if there is an error; mirrors `ValidationReport.into_result`. -/
def outcome (r : Report) : Except Report (Members Json) :=
  if r.isOk then .ok r.matched else .error r

/-- The number of errors and a line for each. -/
def display (r : Report) : String :=
  "Validation failed with " ++ toString r.errors.length ++ " error(s):" ++
    String.join ((r.errors.zipIdx 1).map fun (e, i) => "\n" ++ toString i ++ ". " ++ e.display)

theorem outcome_isOk_iff (r : Report) :
    r.outcome.isOk = true ↔ r.errors = [] := by
  unfold outcome isOk
  cases r.errors <;> simp [Except.isOk, Except.toBool]

end Report

theorem keys_insertNew {α : Type} (ms : Members α) (key k : String) (v : α) :
    k ∈ (Members.insertNew ms key v).keys ↔ k ∈ Members.keys ms ∨ k = key := by
  unfold Members.insertNew
  split
  · rename_i h
    have hm := (Members.get?_isSome_iff ms key).mp h
    constructor
    · exact Or.inl
    · rintro (h | rfl)
      · exact h
      · exact hm
  · simp [Members.keys]

theorem keys_firstByPath (errors : List Violation) (k : String) :
    k ∈ (firstByPath errors).keys ↔ ∃ e ∈ errors, e.path = k := by
  suffices h : ∀ ms : Members Violation,
      k ∈ Members.keys (errors.foldl (fun ms e => Members.insertNew ms e.path e) ms) ↔
        k ∈ ms.keys ∨ ∃ e ∈ errors, e.path = k by
    simpa [firstByPath, Members.keys] using h []
  induction errors with
  | nil => simp
  | cons e rest ih =>
    intro ms
    simp only [List.foldl_cons, ih, keys_insertNew, List.mem_cons, exists_eq_or_imp, or_assoc]
    rw [eq_comm (a := k)]

end RequestValidation
