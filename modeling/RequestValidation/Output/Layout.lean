import RequestValidation.Json.Printer
import RequestValidation.Yaml.Printer
/-!
# Layouts of output

Three layouts are made for machines: JSON on one line, indented JSON and YAML. In the one for
people, data that have no form of their own are shown as indented JSON.
-/
namespace RequestValidation

/-- Mirrors `OutputFormat`. -/
inductive Layout where
  | human
  | json
  | yaml
  | jsonPretty
deriving DecidableEq, Repr

namespace Layout

def all : List Layout := [human, json, yaml, jsonPretty]

/-- The name on the command line and in configurations. -/
def name : Layout → String
  | human => "human"
  | json => "json"
  | yaml => "yaml"
  | jsonPretty => "json-pretty"

/-- The layout with a name; letter case matters. -/
def ofName? (s : String) : Option Layout := all.find? fun l => l.name = s

/-- The layout with a name in any letter case of ASCII. -/
def ofNameIgnoringCase? (s : String) : Option Layout :=
  ofName? (String.ofList (s.toList.map Char.toLower))

/-- The text of a document; mirrors `OutputFormat.format`. -/
def render : Layout → Json → String
  | human, v => v.pretty
  | json, v => v.compact
  | yaml, v => v.yaml
  | jsonPretty, v => v.pretty

end Layout

end RequestValidation
