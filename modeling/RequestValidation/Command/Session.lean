import RequestValidation.Command.Inspect
import RequestValidation.Command.Invocation
import RequestValidation.Config.Load
/-!
# Sessions

From a command line to what the program writes and its exit code. The configuration is loaded
first and decides, where the command line does not, which layout is written and whether in colour.
-/
namespace RequestValidation

/-- What the program finds around it. -/
structure Environment where
  files : Files
  /-- The file with the configuration, if one is preset. -/
  configFile : Option String := none
  /-- The files to search for a configuration. -/
  searchPath : List String := []
  /-- Does the output go to a terminal? -/
  terminal : Bool := false

/-- Everything that a command is performed with. -/
structure Session where
  files : Files
  config : Config
  writer : Writer

namespace Session

/-- Mirrors `run`. -/
def perform (s : Session) : Command → Effect
  | .validate schema request locations detailed =>
    validateRequest s.files s.config s.writer schema request locations detailed
  | .inspect schema locations => inspectSchema s.files s.config s.writer schema locations
  | .rules kind => listRules s.writer kind

end Session

/-- A session that was opened, or why it was not. -/
structure Opening where
  warnings : List String
  color : Bool
  session : Except Failure Session

namespace Invocation

/-- The layout that the command line names, else the configured one, else the one for people;
mirrors `resolve_format`. -/
def layout (i : Invocation) (config : Config) : Except Failure Layout :=
  match i.output with
  | some l => .ok l
  | none => config.layout.map fun l => l.getD .human

/-- Loads the configuration and chooses how to write. -/
def opening (i : Invocation) (e : Environment) : Opening :=
  let color := !i.noColor && e.terminal
  let (warnings, loaded) := Config.load e.files e.searchPath i.config
  match loaded with
  | .error f => ⟨warnings, color, .error f⟩
  | .ok config =>
    let color := color && config.output.color
    ⟨warnings, color, (i.layout config).map fun l => ⟨e.files, config, ⟨l, color, i.quiet⟩⟩⟩

end Invocation

/-- What the program writes and its exit code. -/
structure Outcome where
  code : Nat
  output : String := ""
  errors : String := ""
deriving DecidableEq, Repr

/-- A failure as it is shown; mirrors `format_error`. -/
def Failure.text (f : Failure) (color : Bool) : String :=
  (if color then Paint.boldRed.apply "Error:" else "Error:") ++ " " ++ f.message

/-- How the program is called. -/
def usageText : String :=
  "Usage: reqcheck [OPTIONS] <COMMAND>\n\n" ++
  "Commands:\n" ++
  "  validate <SCHEMA> --request <REQUEST> [--location <LOCATION>]... [--detailed]\n" ++
  "  inspect <SCHEMA> [--location <LOCATION>]...\n" ++
  "  rules [--kind <validator|sanitizer>]\n\n" ++
  "Options:\n" ++
  "  -v, --verbose          Log more, repeatable\n" ++
  "  -q, --quiet            Write only what matters\n" ++
  "  -c, --config <FILE>    Read this configuration\n" ++
  "  -o, --output <FORMAT>  human, json, yaml or json-pretty\n" ++
  "      --no-color         Write without colours\n" ++
  "  -h, --help             Show this text\n" ++
  "  -V, --version          Show the version\n"

def programVersion : String := "0.1.0"

/-- The exit code for a command line that is not understood. -/
def usageCode : Nat := 2

def Stop.outcome : Stop → Outcome
  | .usage => ⟨usageCode, "", usageText⟩
  | .help => ⟨0, usageText, ""⟩
  | .version title => ⟨0, title ++ " " ++ programVersion ++ "\n", ""⟩

/-- The files that a command reads. -/
def Command.paths : Command → List String
  | .validate schema request _ _ => [schema, request]
  | .inspect schema _ => [schema]
  | .rules _ => []

/-- The files that an invocation may read. -/
def Invocation.paths (i : Invocation) (searchPath : List String) : List String :=
  i.config.elim searchPath ([·]) ++ i.command.paths

/-- What becomes of an invocation. -/
def Invocation.outcome (i : Invocation) (e : Environment) : Outcome :=
  let o := i.opening e
  let warnings := String.join (o.warnings.map Writer.line)
  let failed (output : String) (f : Failure) : Outcome :=
    ⟨f.code, output, warnings ++ Writer.line (f.text o.color)⟩
  match o.session with
  | .error f => failed "" f
  | .ok s =>
    match s.perform i.command with
    | (output, .ok ()) => ⟨0, output, warnings⟩
    | (output, .error f) => failed output f

/-- What the program does when called with some words; mirrors `main`. -/
def run (e : Environment) (words : List String) : Outcome :=
  match Invocation.ofArguments e.configFile words with
  | .ok i => i.outcome e
  | .error s => s.outcome

end RequestValidation
