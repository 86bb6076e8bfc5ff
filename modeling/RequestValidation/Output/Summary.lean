import RequestValidation.Chain.Outline
import RequestValidation.Chain.Report
import RequestValidation.Schema.Plan
/-!
# Summaries

What a validation tells the outside: whether the request is valid, the errors, the findings about
the schema and the matched data.
-/
namespace RequestValidation

/-- Mirrors `ReportSummary`. -/
structure Summary where
  valid : Bool
  errorCount : Nat
  errors : List Violation
  findings : List SchemaFinding
  matched : Members Json

namespace Summary

/-- Mirrors `ReportSummary.new`. -/
def ofReport (r : Report) (findings : List SchemaFinding) : Summary :=
  ⟨r.isOk, r.errors.length, r.errors, findings, r.matched⟩

end Summary

/-- An error as a document; a missing value is left out. -/
def Violation.toJson (e : Violation) : Json :=
  .object ([("location", .string e.location.name), ("path", .string e.path)] ++
    optionalMember "value" e.value ++ [("message", .string e.message)])

/-- The summary as a document; findings are left out if there are none. -/
def Summary.toJson (s : Summary) : Json :=
  .object ([("valid", .bool s.valid), ("error_count", .int s.errorCount),
      ("errors", .array (s.errors.map Violation.toJson))] ++
    (if s.findings.isEmpty then []
     else [("diagnostics", .array (s.findings.map SchemaFinding.toJson))]) ++
    [("matched_data", .object s.matched)])

end RequestValidation
