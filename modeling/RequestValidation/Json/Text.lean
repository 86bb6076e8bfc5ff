import RequestValidation.Json.Basic
/-!
# The text form of a value

Rules that work on text see a value by its text form: a string as it is, a number or a boolean as
JSON writes it, the items of an array with commas between them. Nothing and `null` are the empty
text.

Results:
* `text_string`: a string is its own text form.
-/
namespace RequestValidation.Json

mutual

/-- The text form of a document; mirrors `to_text`. -/
def text : Json → String
  | .null => ""
  | .bool b => if b then "true" else "false"
  | .number n => n.text
  | .string s => s
  | .array items => ",".intercalate (itemTexts items)
  | .object _ => "[object Object]"

/-- The text forms of the items of an array. -/
def itemTexts : List Json → List String
  | [] => []
  | v :: rest => v.text :: itemTexts rest

end

/-- The text form of a value that may be missing. -/
def textOf : Option Json → String
  | none => ""
  | some v => v.text

/-- Missing, `null`, `false`, a zero or the empty string; mirrors `is_falsy`. -/
def isFalsy : Option Json → Bool
  | none => true
  | some .null => true
  | some (.bool b) => !b
  | some (.number n) => n.isZero
  | some (.string s) => s.isEmpty
  | some _ => false

theorem text_string (s : String) : text (.string s) = s := by rw [text]

end RequestValidation.Json
