import RequestValidation.Failure
import RequestValidation.Yaml.Value
/-!
# Documents in files

Schemas and requests are documents in files, in JSON or in YAML as the file's name says.
-/
namespace RequestValidation.Document

/-- The document in a file; mirrors `load_document`. -/
def load (files : Files) (path : String) : Except Failure Json := do
  let content ← Failure.textAt files path
  if FilePath.isYaml path then
    match Yaml.read? content with
    | some v => .ok v
    | none => .error (.invalidFormat path "YAML")
  else
    match Json.read content with
    | .ok v => .ok v
    | .error _ => .error (.invalidFormat path "JSON")

/-- Mirrors `load_schema`. -/
def schema (files : Files) (path : String) : Except Failure Schema := do
  let v ← load files path
  (Schema.ofJson v).mapError fun e => .core (.schemaStructure e)

/-- Mirrors `load_request`. -/
def request (files : Files) (path : String) : Except Failure Request := do
  let v ← load files path
  (Request.ofJson v).mapError fun _ => .invalidFormat path "request object"

end RequestValidation.Document
