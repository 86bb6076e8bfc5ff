import RequestValidation.Config.Basic
/-!
# Loading configurations

A configuration comes from the file that a command names. Without one it comes from the first file
on a search path that is there and holds a configuration, with a warning for each that is there
and holds none; if there is none at all it is the default one.
-/
namespace RequestValidation.Config

/-- The configuration in a file; mirrors `Config.from_file`. -/
def ofFile (files : Files) (path : String) : Except Failure Config := do
  let content ← Failure.textAt files path
  if FilePath.isYaml path then ofYamlText content else ofJsonText content

/-- The files to search, the first one first, among them those in the directory for configurations
and in the one of the user; mirrors `default_config_paths`. -/
def searchPath (directory home : Option String) : List String :=
  [".reqcheck.yaml", ".reqcheck.json", "reqcheck.yaml", "reqcheck.json"] ++
    (match directory with
     | some d => [d ++ "/reqcheck/config.yaml", d ++ "/reqcheck/config.json"]
     | none => []) ++
    (match home with
     | some h => [h ++ "/.reqcheck.yaml", h ++ "/.reqcheck.json"]
     | none => [])

/-- What is said about a file that holds no configuration. -/
def warning (path : String) (f : Failure) : String :=
  "Warning: Failed to load config from " ++ Text.quoted path ++ ": " ++ f.message

/-- The first configuration among files, and the warnings before it; mirrors `Config.load`. -/
def search (files : Files) : List String → List String × Config
  | [] => ([], {})
  | path :: rest =>
    if files path = .missing then search files rest
    else
      match ofFile files path with
      | .ok c => ([], c)
      | .error f =>
        let (warnings, c) := search files rest
        (warning path f :: warnings, c)

/-- The configuration in a named file, else the first among others, with warnings; mirrors
`Config.load_with_file`. -/
def load (files : Files) (paths : List String) :
    Option String → List String × Except Failure Config
  | some path => ([], ofFile files path)
  | none =>
    let (warnings, c) := search files paths
    (warnings, .ok c)

end RequestValidation.Config
