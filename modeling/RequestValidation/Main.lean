import RequestValidation.Command.Session
/-!
# The program

Reads the files that the command line names, hands everything to `run` and writes what it says.
-/
namespace RequestValidation

/-- What is found at a path outside. -/
def readState (path : String) : IO FileState := do
  try
    match String.fromUTF8? (← IO.FS.readBinFile path) with
    | some content => return .text content
    | none => return .unreadable "stream did not contain valid UTF-8"
  catch
    | .noFileOrDirectory .. => return .missing
    | .inappropriateType .. => return .directory
    | e => return .unreadable (toString e)

/-- What is found at some paths; nothing is at any other. -/
def readStates (paths : List String) : IO Files := do
  let states ← paths.mapM fun p => return (p, ← readState p)
  return fun p => (states.lookup p).getD .missing

/-- The directory for configurations: a variable's, if it leads there from everywhere, or one in
the directory of the user. -/
def configDirectory (preset home : Option String) : Option String :=
  match preset.filter (·.startsWith "/") with
  | some d => some d
  | none => home.map (· ++ "/.config")

/-- Runs the program with some words and gives its exit code. -/
def program (words : List String) : IO UInt32 := do
  let configFile ← IO.getEnv "REQCHECK_CONFIG"
  let home ← IO.getEnv "HOME"
  let directory := configDirectory (← IO.getEnv "XDG_CONFIG_HOME") home
  let searchPath := Config.searchPath directory home
  let stdout ← IO.getStdout
  let terminal ← stdout.isTty
  let paths := match Invocation.ofArguments configFile words with
    | .ok i => i.paths searchPath
    | .error _ => []
  let files ← readStates paths
  let outcome := run { files, configFile, searchPath, terminal } words
  IO.print outcome.output
  IO.eprint outcome.errors
  return outcome.code.toUInt32

end RequestValidation

def main (words : List String) : IO UInt32 := RequestValidation.program words
