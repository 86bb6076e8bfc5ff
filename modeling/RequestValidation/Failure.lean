import RequestValidation.Error
import RequestValidation.Files
/-!
# Failures

Why a command did not succeed, with the wording and the exit code of each reason.
-/
namespace RequestValidation

/-- Mirrors `Error` of the command line. -/
inductive Failure where
  | unreadable (reason : String)
  | core (e : Error)
  | fileNotFound (path : String)
  | invalidFormat (path expected : String)
  | unknownOutputFormat (name : String)
  | validationFailed (count : Nat)
  | invalidJson (e : Json.SyntaxError)
  | invalidYaml
deriving Repr

namespace Failure

/-- Mirrors `exit_code`. -/
def code : Failure → Nat
  | unreadable _ => 1
  | core _ => 2
  | fileNotFound _ => 3
  | invalidFormat _ _ => 4
  | unknownOutputFormat _ => 5
  | validationFailed _ => 7
  | invalidJson _ => 12
  | invalidYaml => 13

def message : Failure → String
  | unreadable reason => "IO error: " ++ reason
  | core e => "Core error: " ++ e.message
  | fileNotFound path => "File not found: " ++ path
  | invalidFormat path expected =>
    "Invalid file format for " ++ path ++ ": expected " ++ expected ++ " format"
  | unknownOutputFormat name => "Configuration error: unknown output format '" ++ name ++ "'"
  | validationFailed count => "Validation failed with " ++ toString count ++ " error(s)"
  | invalidJson e => "JSON error: " ++ e.text
  | invalidYaml => "YAML error: not a document of the expected shape"

/-- The text at a path. -/
def textAt (files : Files) (path : String) : Except Failure String :=
  match files path with
  | .missing => .error (fileNotFound path)
  | .directory => .error (unreadable "Is a directory (os error 21)")
  | .unreadable reason => .error (unreadable reason)
  | .text content => .ok content

end Failure

end RequestValidation
