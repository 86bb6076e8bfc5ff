/-!
# The catalogue of rules

A rule either checks a value or changes it. `Rule.all` lists the catalogue, rules that check
first; `Rule.name` is the spelling in schemas.

Results:
* `ofName?_name`, `name_of_ofName?`: a rule is known by its name and by nothing else.
-/
namespace RequestValidation

/-- Does a rule check a value or change it? Mirrors `RuleKind`. -/
inductive RuleRole where
  | validator
  | sanitizer
deriving DecidableEq, Repr

def RuleRole.name : RuleRole → String
  | .validator => "validator"
  | .sanitizer => "sanitizer"

/-- The role with a name; letter case matters. -/
def RuleRole.ofName? (s : String) : Option RuleRole :=
  [RuleRole.validator, .sanitizer].find? fun k => k.name = s

/-- Mirrors `RuleId`. -/
inductive Rule where
  | present
  | optional
  | notEmpty
  | isEmpty
  | isInt
  | isFloat
  | isNumeric
  | isBoolean
  | isEmail
  | isUrl
  | isUuid
  | isJson
  | isIso8601
  | isHexadecimal
  | isAlpha
  | isAlphanumeric
  | isLowercase
  | isUppercase
  | isLength
  | isIn
  | equals
  | contains
  | matching
  | isArray
  | isObject
  | isString
  | trim
  | trimLeft
  | trimRight
  | escape
  | toInt
  | toFloat
  | toBoolean
  | toLowerCase
  | toUpperCase
  | blacklist
  | whitelist
  | toDate
deriving DecidableEq, Repr

namespace Rule

/-- The whole catalogue in its order; mirrors `RuleId.ALL`. -/
def all : List Rule := [
  present, optional, notEmpty, isEmpty, isInt, isFloat, isNumeric, isBoolean, isEmail, isUrl,
  isUuid, isJson, isIso8601, isHexadecimal, isAlpha, isAlphanumeric, isLowercase, isUppercase,
  isLength, isIn, equals, contains, matching, isArray, isObject, isString, trim, trimLeft,
  trimRight, escape, toInt, toFloat, toBoolean, toLowerCase, toUpperCase, blacklist, whitelist,
  toDate]

/-- The name in schemas and in output; mirrors `RuleId.name`. -/
def name : Rule → String
  | present => "exists"
  | optional => "optional"
  | notEmpty => "notEmpty"
  | isEmpty => "isEmpty"
  | isInt => "isInt"
  | isFloat => "isFloat"
  | isNumeric => "isNumeric"
  | isBoolean => "isBoolean"
  | isEmail => "isEmail"
  | isUrl => "isURL"
  | isUuid => "isUUID"
  | isJson => "isJSON"
  | isIso8601 => "isISO8601"
  | isHexadecimal => "isHexadecimal"
  | isAlpha => "isAlpha"
  | isAlphanumeric => "isAlphanumeric"
  | isLowercase => "isLowercase"
  | isUppercase => "isUppercase"
  | isLength => "isLength"
  | isIn => "isIn"
  | equals => "equals"
  | contains => "contains"
  | matching => "matches"
  | isArray => "isArray"
  | isObject => "isObject"
  | isString => "isString"
  | trim => "trim"
  | trimLeft => "ltrim"
  | trimRight => "rtrim"
  | escape => "escape"
  | toInt => "toInt"
  | toFloat => "toFloat"
  | toBoolean => "toBoolean"
  | toLowerCase => "toLowerCase"
  | toUpperCase => "toUpperCase"
  | blacklist => "blacklist"
  | whitelist => "whitelist"
  | toDate => "toDate"

/-- Mirrors `RuleId.kind`. -/
def role : Rule → RuleRole
  | trim | trimLeft | trimRight | escape | toInt | toFloat | toBoolean | toLowerCase | toUpperCase
  | blacklist | whitelist | toDate => .sanitizer
  | _ => .validator

/-- Mirrors `RuleId.is_validator`. -/
def checks (r : Rule) : Bool := r.role == .validator

/-- What the rule does, in a few words; mirrors `RuleId.description`. -/
def description : Rule → String
  | present => "value is present"
  | optional => "skip the field when absent"
  | notEmpty => "text is not empty"
  | isEmpty => "text is empty"
  | isInt => "integer, optionally bounded"
  | isFloat => "decimal number, optionally bounded"
  | isNumeric => "numeric text"
  | isBoolean => "boolean text"
  | isEmail => "e-mail address"
  | isUrl => "absolute URL"
  | isUuid => "UUID, optionally of a given version"
  | isJson => "parseable JSON"
  | isIso8601 => "ISO 8601 date or date-time"
  | isHexadecimal => "hexadecimal text"
  | isAlpha => "letters only"
  | isAlphanumeric => "letters and digits only"
  | isLowercase => "no uppercase characters"
  | isUppercase => "no lowercase characters"
  | isLength => "character count within bounds"
  | isIn => "one of the given values"
  | equals => "equal to the given text"
  | contains => "contains the given text"
  | matching => "matches a regular expression"
  | isArray => "JSON array, optionally bounded"
  | isObject => "JSON object"
  | isString => "JSON string"
  | trim => "strip surrounding characters"
  | trimLeft => "strip leading characters"
  | trimRight => "strip trailing characters"
  | escape => "escape HTML special characters"
  | toInt => "convert to integer"
  | toFloat => "convert to float"
  | toBoolean => "convert to boolean"
  | toLowerCase => "lowercase text"
  | toUpperCase => "uppercase text"
  | blacklist => "remove the given characters"
  | whitelist => "keep only the given characters"
  | toDate => "convert ISO 8601 text to RFC 3339"

/-- The rule with a name; letter case matters; mirrors `RuleId.from_str`. -/
def ofName? (s : String) : Option Rule := all.find? fun r => r.name = s

theorem ofName?_name (r : Rule) : ofName? r.name = some r := by cases r <;> decide

theorem name_of_ofName? {s : String} {r : Rule} (h : ofName? s = some r) : r.name = s := by
  have := List.find?_some h
  simpa using this

end Rule

end RequestValidation
