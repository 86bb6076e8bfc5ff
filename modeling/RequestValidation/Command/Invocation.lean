import RequestValidation.Command.Switch
/-!
# Invocations

What a command line asks for. A word that begins with a dash is made of switches; their values
follow in the same word or are the next one, which must not begin with a dash. Behind two dashes
alone nothing is a switch. A switch stands once on each side of the command's name, but those that
add up may be repeated; what stands behind the name counts more.
-/
namespace RequestValidation

/-- Why a command line is not an invocation: it is not understood, or asks for a text about the
program only. -/
inductive Stop where
  | usage
  | help
  | version (title : String)
deriving DecidableEq, Repr

/-- What stands on one side of the command's name, in order. -/
structure Given where
  switches : List (Switch × String) := []
  places : List String := []

namespace Given

def has (g : Given) (s : Switch) : Bool := g.switches.any fun p => p.1 = s

def values (g : Given) (s : Switch) : List String :=
  (g.switches.filter fun p => p.1 = s).map Prod.snd

def value? (g : Given) (s : Switch) : Option String := (g.values s).getLast?

/-- Takes a switch with its value, which is empty for one without. -/
def add (g : Given) (scope : Scope) (s : Switch) (value : String) : Except Stop Given :=
  match s with
  | .help => .error .help
  | .version => .error (.version scope.title)
  | s =>
    if (g.has s && !s.isRepeatable) || !s.accepts value then .error .usage
    else .ok { g with switches := g.switches ++ [(s, value)] }

/-- Takes an argument that is no switch. -/
def addPlace (g : Given) (scope : Scope) (word : String) : Except Stop Given :=
  if word.isEmpty || scope.maxPlaces ≤ g.places.length then .error .usage
  else .ok { g with places := g.places ++ [word] }

/-- The value of a switch in its own word, behind an optional sign. -/
def attached (cs : List Char) : String :=
  String.ofList (match cs with
    | '=' :: rest => rest
    | cs => cs)

/-- Letters behind one dash. Gives the switch as well whose value is the next word. -/
def addLetters (scope : Scope) : Given → List Char → Except Stop (Given × Option Switch)
  | g, [] => .ok (g, none)
  | g, c :: rest =>
    match scope.short? c with
    | none => .error .usage
    | some s =>
      if s.takesValue then
        if rest.isEmpty then .ok (g, some s)
        else do .ok (← g.add scope s (attached rest), none)
      else do addLetters scope (← g.add scope s "") rest

/-- A word behind two dashes. Gives the switch as well whose value is the next word. -/
def addWord (scope : Scope) (g : Given) (cs : List Char) : Except Stop (Given × Option Switch) :=
  let name := String.ofList (cs.takeWhile (· ≠ '='))
  let rest := cs.dropWhile (· ≠ '=')
  match scope.long? name with
  | none => .error .usage
  | some s =>
    if s.takesValue then
      if rest.isEmpty then .ok (g, some s)
      else do .ok (← g.add scope s (attached rest), none)
    else if rest.isEmpty then do .ok (← g.add scope s "", none)
    else .error .usage

/-- What stands in a scope, and the words behind the name of a command. -/
def read (scope : Scope) : List String → (waiting : Option Switch) → (ended : Bool) → Given →
    Except Stop (Given × Option (Scope × List String))
  | [], none, _, g => .ok (g, none)
  | [], some _, _, _ => .error .usage
  | word :: rest, waiting, ended, g => do
    let command := if scope = .top then Scope.ofName? word else none
    match ended, waiting, command, word.toList with
    | true, _, _, _ => read scope rest none true (← g.addPlace scope word)
    | false, none, some c, _ => .ok (g, some (c, rest))
    | false, some _, _, '-' :: _ :: _ => .error .usage
    | false, none, none, ['-', '-'] => read scope rest none true g
    | false, none, none, '-' :: '-' :: cs =>
      let (g, waiting) ← addWord scope g cs
      read scope rest waiting false g
    | false, none, none, '-' :: c :: cs =>
      let (g, waiting) ← addLetters scope g (c :: cs)
      read scope rest waiting false g
    | false, some s, _, _ => read scope rest none false (← g.add scope s word)
    | false, none, none, _ => read scope rest none false (← g.addPlace scope word)

end Given

/-- A command with what it needs; mirrors `Commands`. -/
inductive Command where
  | validate (schema request : String) (locations : List Location) (detailed : Bool)
  | inspect (schema : String) (locations : List Location)
  | rules (kind : Option RuleRole)
deriving DecidableEq, Repr

/-- A command and what goes for every command; mirrors `Cli`. -/
structure Invocation where
  command : Command
  verbosity : Nat := 0
  quiet : Bool := false
  config : Option String := none
  output : Option Layout := none
  noColor : Bool := false
deriving DecidableEq, Repr

namespace Invocation

/-- Does one side ask for less and for more at once? -/
def isContradictory (g : Given) : Bool := g.has .quiet && g.has .verbose

/-- The command that the words behind its name spell. -/
def commandOf? (scope : Scope) (g : Given) : Option Command :=
  let locations := (g.values .location).filterMap Location.ofName?
  match scope with
  | .top => none
  | .validate => do
    let schema ← g.places.head?
    let request ← g.value? .request
    some (.validate schema request locations (g.has .detailed))
  | .inspect => do some (.inspect (← g.places.head?) locations)
  | .rules => some (.rules ((g.value? .kind).bind RuleRole.ofName?))

/-- The file that the environment names holds the configuration if the command line names none; an
empty name is refused on each side that names none. -/
def configOf (preset : Option String) (before behind : Given) : Except Stop (Option String) :=
  if preset = some "" && !(before.has .config && behind.has .config) then .error .usage
  else .ok ((behind.value? .config).or ((before.value? .config).or preset))

/-- What a command line asks for, where the environment may preset the configuration file; mirrors
`Cli.parse_args`. -/
def ofArguments (preset : Option String) (words : List String) : Except Stop Invocation := do
  let (before, command) ← Given.read .top words none false {}
  match command with
  | none => .error .usage
  | some (scope, rest) =>
    let (behind, _) ← Given.read scope rest none false {}
    let config ← configOf preset before behind
    match commandOf? scope behind with
    | none => .error .usage
    | some command =>
      if isContradictory before || isContradictory behind then .error .usage
      else
        let counted := (behind.values .verbose).length
        .ok {
          command, config
          verbosity := if counted = 0 then (before.values .verbose).length else counted
          quiet := before.has .quiet || behind.has .quiet
          output :=
            ((behind.value? .output).or (before.value? .output)).bind Layout.ofName?
          noColor := before.has .noColor || behind.has .noColor }

end Invocation

end RequestValidation
