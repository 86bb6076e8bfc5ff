import RequestValidation.Failure
import RequestValidation.Output.Layout
import RequestValidation.Schema.Basic
import RequestValidation.Settings.Json
import RequestValidation.Settings.Yaml
/-!
# Configurations

Where fields are looked for that do not say so themselves, how output is written and what is
logged. What a configuration leaves out has a default.
-/
namespace RequestValidation

/-- Mirrors `OutputSettings`. -/
structure DisplaySettings where
  format : Option String := none
  color : Bool := true
deriving DecidableEq, Repr

/-- Mirrors `LoggingSettings`. -/
structure LogSettings where
  level : Option String := none
  format : Option String := none
deriving DecidableEq, Repr

/-- Mirrors `Config`. -/
structure Config where
  /-- Names of locations; others than those of locations are passed over. -/
  defaultLocations : List String := []
  output : DisplaySettings := {}
  logging : LogSettings := {}
deriving DecidableEq, Repr

namespace DisplaySettings

def shape : Shape :=
  .record "OutputSettings" [("format", .optional .text), ("color", .flag)]

def ofSetting (v : Setting) : DisplaySettings :=
  ⟨(v.field "format").text?, (v.field "color").flag?.getD true⟩

def toJson (s : DisplaySettings) : Json :=
  .object [("format", Json.ofOption .string s.format), ("color", .bool s.color)]

end DisplaySettings

namespace LogSettings

def shape : Shape :=
  .record "LoggingSettings" [("level", .optional .text), ("format", .optional .text)]

def ofSetting (v : Setting) : LogSettings :=
  ⟨(v.field "level").text?, (v.field "format").text?⟩

/-- The settings that a document is. -/
def ofJson? (v : Json) : Option LogSettings := (Setting.ofJson? shape v).map ofSetting

def toJson (s : LogSettings) : Json :=
  .object [("level", Json.ofOption .string s.level), ("format", Json.ofOption .string s.format)]

end LogSettings

namespace Config

def shape : Shape :=
  .record "Config" [("default_locations", .list .text), ("output", DisplaySettings.shape),
    ("logging", LogSettings.shape)]

def ofSetting (v : Setting) : Config where
  defaultLocations := (v.field "default_locations").items.filterMap Setting.text?
  output := .ofSetting (v.field "output")
  logging := .ofSetting (v.field "logging")

/-- The configuration that a JSON text spells. -/
def ofJsonText (content : String) : Except Failure Config :=
  match Setting.ofJsonText shape content with
  | .ok v => .ok (ofSetting v)
  | .error e => .error (.invalidJson e)

/-- The configuration that a YAML text spells. -/
def ofYamlText (content : String) : Except Failure Config :=
  match Setting.ofYamlText? shape content with
  | some v => .ok (ofSetting v)
  | none => .error .invalidYaml

def toJson (c : Config) : Json :=
  .object [("default_locations", .array (c.defaultLocations.map .string)),
    ("output", c.output.toJson), ("logging", c.logging.toJson)]

/-- Where fields are looked for: at the locations given with a command, else at those configured,
else at all; mirrors `Config.effective_locations`. -/
def locationsFor (c : Config) (flags : List Location) : List Location :=
  if flags.isEmpty then LocationChoice.resolve (some (.many c.defaultLocations)) Location.all
  else LocationChoice.resolve none flags

/-- The configured layout of the output; mirrors `Config.output_format`. -/
def layout (c : Config) : Except Failure (Option Layout) :=
  match c.output.format with
  | none => .ok none
  | some name =>
    match Layout.ofNameIgnoringCase? name with
    | some l => .ok (some l)
    | none => .error (.unknownOutputFormat name)

end Config

end RequestValidation
