import RequestValidation.Rule.Arguments
import RequestValidation.Schema.Reader
/-!
# Errors

What can go wrong on the way from a schema and a request to a report, with the wording of each.
-/
namespace RequestValidation

/-- Mirrors `Error` of the checks. -/
inductive Error where
  | unknownRule (name : String)
  | unknownLocation (name : String)
  | invalidArguments (e : InvalidArguments)
  | schemaStructure (e : SchemaFault)
deriving Repr

def Error.message : Error → String
  | unknownRule name => "Unknown rule: " ++ name
  | unknownLocation name => "Unknown location: " ++ name
  | invalidArguments e =>
    "Invalid arguments for rule '" ++ e.rule.name ++ "': " ++ e.cause.message
  | schemaStructure e => "Schema structure error: " ++ e.message

end RequestValidation
