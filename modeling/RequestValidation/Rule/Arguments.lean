import RequestValidation.Decimal.Numeral
import RequestValidation.Json.Printer
import RequestValidation.Json.Text
import RequestValidation.Rule.Basic
import RequestValidation.Text.Blank
/-!
# Arguments of rules

A rule is queued with a list of JSON values as its arguments. The readers here take one argument,
or one member of an options object, as what the rule needs; a `null` is as good as none. An
argument that does not fit is an `ArgumentError`, which names its cause.
-/
namespace RequestValidation

/-- Why a rule cannot work with its arguments. Arguments are counted from one. -/
inductive ArgumentError where
  | notOptions (place : Nat) (got : Json)
  | notText (place : Nat) (got : Json)
  | notArray (place : Nat) (got : Json)
  | required (place : Nat)
  | flagNotBoolean (key : String) (got : Json)
  | boundNotNumber (key : String) (got : Json)
  | listNotArray (key : String) (got : Json)
  | negativeLength
  | uuidVersion (text : String)
  | radix (text : String)
  | invalidPattern
  | notTextValidator
  | sanitizerAsValidator
  | validatorAsSanitizer
deriving Repr

namespace ArgumentError

/-- A value between quotes if it is a string, otherwise as JSON. -/
def shown : Json → String
  | .string s => "\"" ++ s ++ "\""
  | v => v.compact

def message : ArgumentError → String
  | notOptions place got =>
    "argument " ++ toString place ++ " must be an options object, got " ++ got.compact
  | notText place got => "argument " ++ toString place ++ " must be a string, got " ++ got.compact
  | notArray place got => "argument " ++ toString place ++ " must be an array, got " ++ got.compact
  | required place => "argument " ++ toString place ++ " is required"
  | flagNotBoolean key got => "option '" ++ key ++ "' must be a boolean, got " ++ got.compact
  | boundNotNumber key got => "option '" ++ key ++ "' must be a number, got " ++ shown got
  | listNotArray key got => "option '" ++ key ++ "' must be an array, got " ++ got.compact
  | negativeLength => "length bounds must not be negative"
  | uuidVersion text => "unsupported UUID version '" ++ text ++ "'"
  | radix text => "radix '" ++ text ++ "' is out of range"
  | invalidPattern => "invalid pattern: not a regular expression"
  | notTextValidator => "not a text validator"
  | sanitizerAsValidator => "sanitizers cannot be used as validators"
  | validatorAsSanitizer => "validators cannot be used as sanitizers"

end ArgumentError

/-- A rule whose arguments do not fit. -/
structure InvalidArguments where
  rule : Rule
  cause : ArgumentError
deriving Repr

/-- The arguments of a rule, in order; mirrors `RuleArgs`. -/
abbrev Arguments := List Json

namespace Arguments

/-- The argument at an index; `null` is none; mirrors `RuleArgs.get`. -/
def get? (args : Arguments) (i : Nat) : Option Json :=
  match args[i]? with
  | some .null => none
  | v => v

/-- A string, a number or a boolean as text; mirrors `RuleArgs.text`. -/
def text? (args : Arguments) (i : Nat) : Except ArgumentError (Option String) :=
  match args.get? i with
  | none => .ok none
  | some (.string s) => .ok (some s)
  | some (.number n) => .ok (some n.text)
  | some (.bool b) => .ok (some (Json.bool b).text)
  | some v => .error (.notText (i + 1) v)

/-- Text that has to be there; mirrors `RuleArgs.required_text`. -/
def text (args : Arguments) (i : Nat) : Except ArgumentError String := do
  match ← args.text? i with
  | some s => .ok s
  | none => .error (.required (i + 1))

/-- An array that has to be there; mirrors `RuleArgs.array`. -/
def array (args : Arguments) (i : Nat) : Except ArgumentError (List Json) :=
  match args.get? i with
  | some (.array items) => .ok items
  | some v => .error (.notArray (i + 1) v)
  | none => .error (.required (i + 1))

end Arguments

/-- The members of an options object, none if the argument is missing. -/
abbrev Options := Members Json

/-- The options object at an index; mirrors `RuleArgs.object`. -/
def Arguments.options (args : Arguments) (i : Nat) : Except ArgumentError Options :=
  match args.get? i with
  | none => .ok []
  | some (.object ms) => .ok ms
  | some v => .error (.notOptions (i + 1) v)

namespace Options

/-- The option with a name; `null` is none. -/
def find? (o : Options) (key : String) : Option Json :=
  match Members.get? o key with
  | some .null => none
  | v => v

/-- A switch that is off unless it is set; mirrors `RuleArgs.flag`. -/
def flag (o : Options) (key : String) : Except ArgumentError Bool :=
  match o.find? key with
  | none => .ok false
  | some (.bool b) => .ok b
  | some v => .error (.flagNotBoolean key v)

/-- A switch that is on unless it is `false`; no other value matters; mirrors `default_true`. -/
def flagOrOn (o : Options) (key : String) : Bool :=
  ((o.find? key).bind Json.bool?).getD true

/-- A number, or a string that holds one between blanks; mirrors `RuleArgs.number`. -/
def bound? (o : Options) (key : String) : Except ArgumentError (Option Extended64) :=
  match o.find? key with
  | none => .ok none
  | some (.number n) => .ok (some (.finite n.toBinary64))
  | some (.string s) =>
    match Extended64.read? (Text.trim Text.isBlank s.toList) with
    | some x => .ok (some x)
    | none => .error (.boundNotNumber key (.string s))
  | some v => .error (.boundNotNumber key v)

/-- The text forms of the items of a list; mirrors `RuleArgs.strings`. -/
def texts? (o : Options) (key : String) : Except ArgumentError (Option (List String)) :=
  match o.find? key with
  | none => .ok none
  | some (.array items) => .ok (some (items.map Json.text))
  | some v => .error (.listNotArray key v)

end Options

/-- Limits on a number; those that are missing hold; mirrors `Bounds`. -/
structure Bounds where
  min : Option Extended64 := none
  max : Option Extended64 := none
  gt : Option Extended64 := none
  lt : Option Extended64 := none

namespace Bounds

/-- Mirrors `Bounds.read`. -/
def read (o : Options) : Except ArgumentError Bounds := do
  let min ← o.bound? "min"
  let max ← o.bound? "max"
  let gt ← o.bound? "gt"
  let lt ← o.bound? "lt"
  .ok ⟨min, max, gt, lt⟩

/-- Mirrors `Bounds.contains`. -/
def contains (b : Bounds) (x : Extended64) : Bool :=
  b.min.all (·.le x) && b.max.all (x.le ·) && b.gt.all (·.lt x) && b.lt.all (x.lt ·)

end Bounds

end RequestValidation
