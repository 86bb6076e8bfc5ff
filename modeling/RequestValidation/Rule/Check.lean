import RequestValidation.Calendar.Moment
import RequestValidation.Format.Email
import RequestValidation.Format.Url
import RequestValidation.Format.Uuid
import RequestValidation.Json.Reader
import RequestValidation.Pattern.Program
import RequestValidation.Pattern.Reader
import RequestValidation.Rule.Arguments
import RequestValidation.Text.Case
import RequestValidation.Text.Infix
/-!
# Rules that check values

Some validators look at the value itself: is it there, is it an array, an object, a string. All
others test the text form of the value, and of an array the text form of each item. Such a test is
made out once from the arguments of the rule, so an argument that does not fit is found whatever
the value is.

`Rule.verdicts` gives a verdict for the value, or one for each item.
-/
namespace RequestValidation

/-- A test of a text, its arguments understood; mirrors `TextCheck`. -/
inductive TextTest where
  | notEmpty
  | isEmpty (ignoreBlanks : Bool)
  | int (bounds : Bounds) (leadingZeros : Bool)
  | float (bounds : Bounds)
  | numeric (noSymbols : Bool)
  | boolean (loose : Bool)
  | email
  | url (schemes : List String)
  | uuid (version : Option Nat)
  | json (primitives : Bool)
  | iso8601
  | hexadecimal
  | alpha
  | alphanumeric
  | lowercase
  | uppercase
  | length (min : Nat) (max : Option Nat)
  | oneOf (allowed : List String)
  | equals (expected : String)
  | contains (needle : String)
  | matching (pattern : Pattern)

namespace TextTest

/-- Digits with an optional sign, and without zeros in front if those are not allowed; mirrors
`int_regex`. -/
def isIntText (leadingZeros : Bool) (cs : List Char) : Bool :=
  let (_, digits) := splitSign cs
  !digits.isEmpty && digits.all Char.isDigit &&
    (leadingZeros || digits.head? != some '0' || digits.length == 1)

/-- What follows digits and a point with digits, each of which may be missing. -/
def behindDigits (cs : List Char) : List Char :=
  let (_, rest) := digitRun cs
  match rest with
  | '.' :: tail => (digitRun tail).2
  | _ => rest

/-- A sign, digits, a point with digits and an exponent, each of which may be missing; mirrors
`float_regex`. -/
def isFloatText (cs : List Char) : Bool :=
  (Numeral.readExponent (behindDigits (splitSign cs).2)).2.isEmpty

/-- Digits with an optional sign and a point that digits follow; mirrors `numeric_regex`. -/
def isNumericText (cs : List Char) : Bool :=
  let (whole, rest) := digitRun (splitSign cs).2
  match rest with
  | [] => !whole.isEmpty
  | '.' :: fraction => !fraction.isEmpty && fraction.all Char.isDigit
  | _ => false

/-- Hexadecimal digits behind an optional `0x` or `0h`; mirrors `hexadecimal_regex`. -/
def isHexadecimalText (cs : List Char) : Bool :=
  let digits := match cs with
    | '0' :: c :: rest => if c = 'x' ∨ c = 'X' ∨ c = 'h' ∨ c = 'H' then rest else cs
    | _ => cs
  !digits.isEmpty && digits.all Format.isHexDigit

/-- A document, and a container unless everything is allowed. -/
def isJsonText (primitives : Bool) (text : String) : Bool :=
  match Json.read text with
  | .ok (.object _) => true
  | .ok (.array _) => true
  | .ok _ => primitives
  | .error _ => false

/-- The schemes of URLs that are accepted when none are named. -/
def defaultSchemes : List String := ["http", "https", "ftp"]

/-- The version that a UUID must have. -/
def uuidVersion? (args : Arguments) : Except ArgumentError (Option Nat) := do
  match ← args.text? 0 with
  | none => .ok none
  | some v =>
    if v = "all" then .ok none
    else match natUpTo? 5 v.toList with
      | some (n + 1) => .ok (some (n + 1))
      | _ => .error (.uuidVersion v)

/-- The largest count. -/
def maxCount : Nat := Nat.pow 2 64 - 1

/-- A bound of a length is cut to a whole number. -/
def lengthTest (o : Options) : Except ArgumentError TextTest := do
  let zero := Extended64.ofInt 0
  let min := (← o.bound? "min").getD zero
  let max ← o.bound? "max"
  if min.lt zero || max.any (·.lt zero) then .error .negativeLength
  else .ok (.length (min.toNatSaturating maxCount) (max.map (·.toNatSaturating maxCount)))

/-- The pattern of a search, the known ones among the flags in front of it. -/
def patternTest (args : Arguments) : Except ArgumentError TextTest := do
  let source ← args.text 0
  let flags := ((← args.text? 1).getD "").toList.filter fun c => c = 'i' ∨ c = 'm' ∨ c = 's'
  let full :=
    if flags.isEmpty then source else "(?" ++ String.ofList flags ++ ")" ++ source
  match Pattern.read? full with
  | some p => .ok (.matching p)
  | none => .error .invalidPattern

/-- The test of a rule with its arguments; mirrors `TextCheck.prepare`. -/
def ofRule (r : Rule) (args : Arguments) : Except ArgumentError TextTest :=
  match r with
  | .notEmpty => .ok .notEmpty
  | .isEmpty => do .ok (.isEmpty (← (← args.options 0).flag "ignore_whitespace"))
  | .isInt => do
    let o ← args.options 0
    .ok (.int (← Bounds.read o) (o.flagOrOn "allow_leading_zeroes"))
  | .isFloat => do .ok (.float (← Bounds.read (← args.options 0)))
  | .isNumeric => do .ok (.numeric (← (← args.options 0).flag "no_symbols"))
  | .isBoolean => do .ok (.boolean (← (← args.options 0).flag "loose"))
  | .isEmail => .ok .email
  | .isUrl => do .ok (.url ((← (← args.options 0).texts? "protocols").getD defaultSchemes))
  | .isUuid => do .ok (.uuid (← uuidVersion? args))
  | .isJson => do .ok (.json (← (← args.options 0).flag "allow_primitives"))
  | .isIso8601 => .ok .iso8601
  | .isHexadecimal => .ok .hexadecimal
  | .isAlpha => .ok .alpha
  | .isAlphanumeric => .ok .alphanumeric
  | .isLowercase => .ok .lowercase
  | .isUppercase => .ok .uppercase
  | .isLength => do lengthTest (← args.options 0)
  | .isIn => do .ok (.oneOf ((← args.array 0).map Json.text))
  | .equals => do .ok (.equals (← args.text 0))
  | .contains => do .ok (.contains (← args.text 0))
  | .matching => patternTest args
  | _ => .error .notTextValidator

/-- Does the text pass? Mirrors `TextCheck.test`. -/
def passes : TextTest → String → Bool
  | notEmpty, s => !s.isEmpty
  | isEmpty ignoreBlanks, s => if ignoreBlanks then s.toList.all Text.isBlank else s.isEmpty
  | int bounds leadingZeros, s =>
    isIntText leadingZeros s.toList && (Extended64.read? s.toList).any bounds.contains
  | float bounds, s =>
    !(["", ".", "-", "+"].contains s) && isFloatText s.toList &&
      (Extended64.read? s.toList).any bounds.contains
  | numeric noSymbols, s =>
    if noSymbols then !s.isEmpty && s.toList.all Char.isDigit else isNumericText s.toList
  | boolean loose, s =>
    if loose then ["true", "false", "1", "0", "yes", "no"].contains (Text.lower s)
    else ["true", "false", "1", "0"].contains s
  | email, s => Format.isEmail s
  | url schemes, s => Format.isUrl schemes s
  | uuid version, s => Format.isUuid version s
  | json primitives, s => isJsonText primitives s
  | iso8601, s => Calendar.isDateText s
  | hexadecimal, s => isHexadecimalText s.toList
  | alpha, s => !s.isEmpty && s.toList.all Char.isAlpha
  | alphanumeric, s => !s.isEmpty && s.toList.all Char.isAlphanum
  | lowercase, s => s == Text.lower s
  | uppercase, s => s == Text.upper s
  | length min max, s => decide (min ≤ s.length) && max.all (s.length ≤ ·)
  | oneOf allowed, s => allowed.contains s
  | equals expected, s => s == expected
  | contains needle, s => Text.occursIn needle.toList s.toList
  | matching pattern, s => pattern.occurs s

end TextTest

/-- What a validator found about a value; mirrors `Verdict`. -/
structure Verdict where
  value : Option Json
  passed : Bool

namespace Rule

/-- Is the value there, in the sense that the options ask for? -/
def isPresent (o : Options) (value : Option Json) : Except ArgumentError Bool := do
  if ← o.flag "checkFalsy" then .ok (!Json.isFalsy value)
  else if ← o.flag "checkNull" then .ok (value.any (!·.isNull))
  else .ok value.isSome

/-- Is the value an array with a number of items within the bounds? -/
def isArrayWithin (o : Options) (value : Option Json) : Except ArgumentError Bool := do
  let min ← o.bound? "min"
  let max ← o.bound? "max"
  match value with
  | some (.array items) => .ok (Bounds.contains ⟨min, max, none, none⟩ (.ofInt items.length))
  | _ => .ok false

/-- A test of the value, or of each item of an array. -/
def textVerdicts (t : TextTest) : Option Json → List Verdict
  | some (.array items) => items.map fun v => ⟨some v, t.passes v.text⟩
  | value => [⟨value, t.passes (Json.textOf value)⟩]

/-- The verdicts of a validator; mirrors `evaluate`. -/
def verdicts (r : Rule) (args : Arguments) (value : Option Json) :
    Except ArgumentError (List Verdict) :=
  match r with
  | present => do .ok [⟨value, ← isPresent (← args.options 0) value⟩]
  | optional => .ok [⟨value, true⟩]
  | isArray => do .ok [⟨value, ← isArrayWithin (← args.options 0) value⟩]
  | isObject => .ok [⟨value, value.any (·.members?.isSome)⟩]
  | isString => .ok [⟨value, value.any (·.string?.isSome)⟩]
  | r =>
    if r.checks then do .ok (textVerdicts (← TextTest.ofRule r args) value)
    else .error .sanitizerAsValidator

end Rule

end RequestValidation
