import RequestValidation.Config.Basic
import RequestValidation.Text.Case
/-!
# Logging

What is logged and how, from three sources: how often a command asks for more, the configuration,
and the environment, whose word is the last one.
-/
namespace RequestValidation

/-- Mirrors `LogFormat`. -/
inductive LogStyle where
  | compact
  | full
  | json
deriving DecidableEq, Repr

namespace LogStyle

def all : List LogStyle := [compact, full, json]

def name : LogStyle → String
  | compact => "compact"
  | full => "full"
  | json => "json"

/-- The style with a name in any letter case; mirrors `LogFormat.parse`. -/
def ofName? (s : String) : Option LogStyle := all.find? fun t => t.name = Text.lower s

end LogStyle

/-- Mirrors `LoggingConfig`. -/
structure Logging where
  level : String := "warn"
  style : LogStyle := .compact
  console : Bool := true
  threadIds : Bool := false
  sourceLocation : Bool := false
deriving DecidableEq, Repr

namespace Logging

/-- What a command logs that asks for more so many times; mirrors `LoggingConfig.from_verbosity`. -/
def ofVerbosity : Nat → Logging
  | 0 => {}
  | 1 => { level := "info" }
  | 2 => { level := "debug", sourceLocation := true }
  | _ => { level := "trace", style := .full, threadIds := true, sourceLocation := true }

/-- With what is configured. The level counts only if the command does not ask for more. Mirrors
`merge_with_file`. -/
def withSettings (l : Logging) (s : LogSettings) (verbosity : Nat) : Logging :=
  { l with
    level := if verbosity = 0 then s.level.getD l.level else l.level
    style := (s.format.bind LogStyle.ofName?).getD l.style }

/-- What the environment says about logging. -/
structure Variables where
  level : Option String := none
  style : Option String := none
  console : Option String := none

/-- With what the environment says; mirrors `merge_with_env`. -/
def withEnvironment (l : Logging) (v : Variables) : Logging :=
  { l with
    level := v.level.getD l.level
    style := (v.style.bind LogStyle.ofName?).getD l.style
    console := (v.console.map fun c => Text.lower c = "true" || c = "1").getD l.console }

def toJson (l : Logging) : Json :=
  .object [("level", .string l.level), ("format", .string l.style.name),
    ("console", .bool l.console), ("thread_ids", .bool l.threadIds),
    ("source_location", .bool l.sourceLocation)]

end Logging

end RequestValidation
