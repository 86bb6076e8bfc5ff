import RequestValidation.Json.Printer
import RequestValidation.Output.Summary
import RequestValidation.Text.Blank
/-!
# Output for people

How reports and chains look to people. Values are shown on one line: long
arrays and objects only by their size.
-/
namespace RequestValidation.Human

/-- The longest array whose items are shown. -/
def maxItems : Nat := 3

/-- The largest object whose members are shown. -/
def maxMembers : Nat := 2

mutual

/-- A value on one line; mirrors `format_value_compact`. -/
def valueText : Json → String
  | .null => "null"
  | .bool b => if b then "true" else "false"
  | .number n => n.text
  | .string s => "\"" ++ s ++ "\""
  | .array items =>
    if items.length ≤ maxItems then "[" ++ ", ".intercalate (itemTexts items) ++ "]"
    else "[" ++ toString items.length ++ " items]"
  | .object members =>
    if members.length ≤ maxMembers then
      "\x7b" ++ ", ".intercalate (memberTexts members) ++ "\x7d"
    else "\x7b" ++ toString members.length ++ " fields\x7d"

def itemTexts : List Json → List String
  | [] => []
  | v :: rest => valueText v :: itemTexts rest

def memberTexts : List (String × Json) → List String
  | [] => []
  | (k, v) :: rest => (k ++ ": " ++ valueText v) :: memberTexts rest

end

/-- The text without the blanks at its end. -/
def trimmed (s : String) : String := String.ofList (Text.trimEnd Text.isBlank s.toList)

/-- An error: its place, its message and the value. -/
def errorText (e : Violation) : String :=
  "\n📍 " ++ e.location.name ++ "." ++ e.path ++ "\n   💬 " ++ e.message ++ "\n   📥 Value: " ++
    (match e.value with
     | some v => valueText v
     | none => "(missing)") ++ "\n"

def verdictText (s : Summary) : String :=
  if s.valid then "✅ Request is valid\n"
  else
    "❌ Validation Failed - " ++ toString s.errorCount ++ " Error(s)\n" ++
      String.join (s.errors.map errorText)

def findingsText (ds : List SchemaFinding) : String :=
  if ds.isEmpty then ""
  else
    "\n⚠️ Schema Diagnostics:\n" ++ String.join (ds.map fun d => "  • " ++ d.display ++ "\n")

/-- Mirrors `format_report_human`. -/
def reportText (s : Summary) : String :=
  trimmed (verdictText s ++ findingsText s.findings)

def argumentsText (args : Arguments) : String :=
  if args.isEmpty then "" else "(" ++ ", ".intercalate (args.map valueText) ++ ")"

/-- Mirrors `describe_step`. -/
def stepText : StepOutline → String
  | .validation rule args negated message =>
    (if negated then "not " else "") ++ rule.name ++ argumentsText args ++
      (match message with
       | some m => " → \"" ++ m ++ "\""
       | none => "")
  | .sanitization rule args => "sanitize " ++ rule.name ++ argumentsText args
  | .condition kind => "if (" ++ kind ++ ")"
  | .bail => "bail"

/-- The fields of a chain and where they are looked for. -/
def headText (d : ChainOutline) : String :=
  let locations :=
    if d.locations.isEmpty then "(none)"
    else ", ".intercalate (d.locations.map Location.name)
  "🔧 " ++ ", ".intercalate d.fields ++ " [" ++ locations ++ "]\n"

/-- A line for a setting that a chain may have. -/
def settingText (label : String) (value : Option String) : String :=
  match value with
  | some v => "   " ++ label ++ ": " ++ v ++ "\n"
  | none => ""

def stepsText (steps : List StepOutline) : String :=
  if steps.isEmpty then "   (no steps)\n"
  else
    String.join ((steps.zipIdx 1).map fun (s, n) =>
      "   " ++ toString n ++ ". " ++ stepText s ++ "\n")

def chainText (d : ChainOutline) : String :=
  headText d ++ settingText "optional" (d.optional.map Absence.name) ++
    settingText "message" d.message ++ stepsText d.steps

/-- Mirrors `format_chains_human`. -/
def chainsText (ds : List ChainOutline) : String :=
  if ds.isEmpty then "No fields in schema"
  else trimmed ("\n".intercalate (ds.map chainText))

end RequestValidation.Human
