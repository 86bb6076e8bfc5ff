import RequestValidation.Output.Layout
import RequestValidation.Request.Location
import RequestValidation.Rule.Basic
/-!
# Switches

The switches of the command line: how each is spelled, whether it takes a value and which values
it takes, and where it may stand. Some may stand before the name of the command as well as behind
it.
-/
namespace RequestValidation

inductive Switch where
  | verbose
  | quiet
  | config
  | output
  | noColor
  | help
  | version
  | request
  | location
  | detailed
  | kind
deriving DecidableEq, Repr

namespace Switch

/-- The spelling behind two dashes. -/
def long : Switch → String
  | verbose => "verbose"
  | quiet => "quiet"
  | config => "config"
  | output => "output"
  | noColor => "no-color"
  | help => "help"
  | version => "version"
  | request => "request"
  | location => "location"
  | detailed => "detailed"
  | kind => "kind"

/-- The letter behind one dash, if there is one. -/
def short? : Switch → Option Char
  | verbose => some 'v'
  | quiet => some 'q'
  | config => some 'c'
  | output => some 'o'
  | help => some 'h'
  | version => some 'V'
  | request => some 'r'
  | location => some 'l'
  | kind => some 'k'
  | noColor | detailed => none

def takesValue : Switch → Bool
  | config | output | request | location | kind => true
  | _ => false

def isRepeatable : Switch → Bool
  | verbose | location => true
  | _ => false

/-- Is this a value that the switch takes? -/
def accepts (value : String) : Switch → Bool
  | config | request => !value.isEmpty
  | output => (Layout.ofName? value).isSome
  | location => (Location.ofName? value).isSome
  | kind => (RuleRole.ofName? value).isSome
  | _ => true

end Switch

/-- The part of a command line before the name of a command, or the one behind it. -/
inductive Scope where
  | top
  | validate
  | inspect
  | rules
deriving DecidableEq, Repr

namespace Scope

/-- The scope behind the name of a command. -/
def ofName? (s : String) : Option Scope :=
  [("validate", validate), ("inspect", inspect), ("rules", rules)].lookup s

/-- The name of the program, with the command behind it. -/
def title : Scope → String
  | top => "reqcheck"
  | validate => "reqcheck-validate"
  | inspect => "reqcheck-inspect"
  | rules => "reqcheck-rules"

/-- The switches of every scope. -/
def everywhere : List Switch :=
  [.verbose, .quiet, .config, .output, .noColor, .help, .version]

def switches : Scope → List Switch
  | top => everywhere
  | validate => everywhere ++ [.request, .location, .detailed]
  | inspect => everywhere ++ [.location]
  | rules => everywhere ++ [.kind]

/-- How many arguments may stand there that are no switches. -/
def maxPlaces : Scope → Nat
  | validate | inspect => 1
  | top | rules => 0

def long? (s : Scope) (word : String) : Option Switch := s.switches.find? fun w => w.long = word

def short? (s : Scope) (letter : Char) : Option Switch :=
  s.switches.find? fun w => w.short? = some letter

end Scope

end RequestValidation
