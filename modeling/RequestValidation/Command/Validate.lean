import RequestValidation.Command.Document
import RequestValidation.Config.Basic
import RequestValidation.Output.Writer
import RequestValidation.Redaction
/-!
# Validating a request

The command that validates a request document against a schema document. People are told first
what is validated, and may ask for the request, without its secrets, and for the matched data.
-/
namespace RequestValidation

/-- What a command writes and how it ends. -/
abbrev Effect := String × Except Failure Unit

/-- The request, the findings about the schema and the report. -/
structure Assessment where
  request : Request
  findings : List SchemaFinding
  report : Report

namespace Assessment

/-- Loads the documents and runs the chains of the schema. -/
def load (files : Files) (config : Config) (schema request : String)
    (locations : List Location) : Except Failure Assessment := do
  let s ← Document.schema files schema
  let r ← Document.request files request
  let plan := s.plan (config.locationsFor locations)
  match plan.run r with
  | .ok results => .ok ⟨r, plan.findings, .ofOutcomes results⟩
  | .error e => .error (.core (.invalidArguments e))

def summary (a : Assessment) : Summary := .ofReport a.report a.findings

/-- What is written about a validation. -/
def text (a : Assessment) (w : Writer) (detailed : Bool) : String :=
  let full := detailed && w.forPeople
  (if full then
      w.heading "Request" ++ w.data (Redaction.redact a.request.toJson) ++ w.heading "Result"
    else "") ++
    w.report a.summary ++
    if full && !a.summary.matched.isEmpty then
      w.heading "Matched Data" ++ w.data (.object a.summary.matched)
    else ""

/-- A request with errors makes the command fail. -/
def verdict (a : Assessment) : Except Failure Unit :=
  if a.report.isOk then .ok () else .error (.validationFailed a.report.errors.length)

end Assessment

/-- Says what is validated, and then what comes of it; mirrors `handle_validate`. -/
def validateRequest (files : Files) (config : Config) (w : Writer) (schema request : String)
    (locations : List Location) (detailed : Bool) : Effect :=
  let announcement := w.info ("Validating " ++ request ++ " against " ++ schema)
  match Assessment.load files config schema request locations with
  | .ok a => (announcement ++ a.text w detailed, a.verdict)
  | .error f => (announcement, .error f)

end RequestValidation
