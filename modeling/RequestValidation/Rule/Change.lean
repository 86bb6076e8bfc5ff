import RequestValidation.Calendar.Moment
import RequestValidation.Decimal.Radix
import RequestValidation.Rule.Arguments
import RequestValidation.Text.Case
/-!
# Rules that change values

A sanitizer changes the text form of a value, and of an array the text form of each item. A
missing value stays missing. The change is made out once from the arguments of the rule.

Results:
* `change_eq_none_iff`: a missing value stays missing, and no other becomes so.
* `escapeMarkup_append`: markup is escaped character by character.
-/
namespace RequestValidation

/-- A way to change a text, its arguments understood; mirrors `Rewrite`. -/
inductive Change where
  /-- Strips characters of a set, white space if there is none. -/
  | trim (set : Option String) (left right : Bool)
  | escape
  | toInt (radix : Option Nat)
  | toFloat
  | toBoolean (strict : Bool)
  | lower
  | upper
  | remove (set : String)
  | keep (set : String)
  | toDate

namespace Change

/-- A character as text that is no markup. -/
def escapeMarkupChar (c : Char) : List Char :=
  if c = '&' then "&amp;".toList
  else if c = '"' then "&quot;".toList
  else if c = '\'' then "&#x27;".toList
  else if c = '<' then "&lt;".toList
  else if c = '>' then "&gt;".toList
  else if c = '/' then "&#x2F;".toList
  else if c = '\\' then "&#x5C;".toList
  else if c = '\x60' then "&#96;".toList
  else [c]

/-- Mirrors `escape_html`. -/
def escapeMarkup (cs : List Char) : List Char := cs.flatMap escapeMarkupChar

theorem escapeMarkup_append (s t : List Char) :
    escapeMarkup (s ++ t) = escapeMarkup s ++ escapeMarkup t := by simp [escapeMarkup]

/-- The radix of an integer, from two to thirty-six. -/
def radix? (args : Arguments) : Except ArgumentError (Option Nat) := do
  match ← args.text? 0 with
  | none => .ok none
  | some s =>
    match natUpTo? 36 s.toList with
    | some (n + 2) => .ok (some (n + 2))
    | _ => .error (.radix s)

/-- The change of a rule with its arguments; mirrors `Rewrite.prepare`. -/
def ofRule (r : Rule) (args : Arguments) : Except ArgumentError Change :=
  match r with
  | .trim => do .ok (.trim (← args.text? 0) true true)
  | .trimLeft => do .ok (.trim (← args.text? 0) true false)
  | .trimRight => do .ok (.trim (← args.text? 0) false true)
  | .escape => .ok .escape
  | .toInt => do .ok (.toInt (← radix? args))
  | .toFloat => .ok .toFloat
  | .toBoolean => do .ok (.toBoolean ((← args.text? 0) == some "true"))
  | .toLowerCase => .ok .lower
  | .toUpperCase => .ok .upper
  | .blacklist => do .ok (.remove (← args.text 0))
  | .whitelist => do .ok (.keep (← args.text 0))
  | .toDate => .ok .toDate
  | _ => .error .validatorAsSanitizer

/-- The characters that a margin consists of. -/
def isMargin (set : Option String) (c : Char) : Bool :=
  match set with
  | some s => s.toList.contains c
  | none => Text.isBlank c

/-- The text without its margins on the chosen sides. -/
def trimSides (set : Option String) (left right : Bool) (cs : List Char) : List Char :=
  let cs := if left then Text.trimStart (isMargin set) cs else cs
  if right then Text.trimEnd (isMargin set) cs else cs

/-- The integer at the front of a text as a value; mirrors `parse_int_prefix`. -/
def integerValue (radix : Option Nat) (cs : List Char) : Json :=
  match Radix.leadingInteger? radix (Text.trimStart Text.isBlank cs) with
  | some (.int i) => .int i
  | some (.float x) => .number (.float x)
  | _ => .null

/-- The decimal number at the front of a text as a value. -/
def floatValue (cs : List Char) : Json :=
  match Numeral.readPrefix? (Text.trimStart Text.isBlank cs) with
  | some (n, _) => Json.ofOption (fun x => .number (.float x)) n.value.finite?
  | none => .null

/-- Strictly only `1` and `true` are true; otherwise only `0`, `false` and nothing are not. -/
def booleanValue (strict : Bool) (s : String) : Bool :=
  if strict then s == "1" || Text.lower s == "true"
  else !(s.isEmpty || s == "0" || Text.lower s == "false")

/-- The changed text as a value; mirrors `Rewrite.apply`. -/
def apply : Change → String → Json
  | trim set left right, s => .string (String.ofList (trimSides set left right s.toList))
  | escape, s => .string (String.ofList (escapeMarkup s.toList))
  | toInt radix, s => integerValue radix s.toList
  | toFloat, s => floatValue s.toList
  | toBoolean strict, s => .bool (booleanValue strict s)
  | lower, s => .string (Text.lower s)
  | upper, s => .string (Text.upper s)
  | remove set, s => .string (String.ofList (s.toList.filter fun c => !set.toList.contains c))
  | keep set, s => .string (String.ofList (s.toList.filter fun c => set.toList.contains c))
  | toDate, s => Json.ofOption (fun m => .string (Calendar.Moment.render m)) (Calendar.moment? s)

/-- The changed value. -/
def applyTo (w : Change) : Json → Json
  | .array items => .array (items.map fun v => w.apply v.text)
  | v => w.apply v.text

end Change

/-- The value that a sanitizer leaves; mirrors `sanitize`. -/
def Rule.change (r : Rule) (args : Arguments) (value : Option Json) :
    Except ArgumentError (Option Json) := do
  let w ← Change.ofRule r args
  .ok (value.map w.applyTo)

/-- A sanitizer makes no value missing, and none of a missing one. -/
theorem Rule.change_eq_none_iff {r : Rule} {args : Arguments} {v v' : Option Json}
    (h : r.change args v = .ok v') : v' = none ↔ v = none := by
  unfold Rule.change at h
  cases hw : Change.ofRule r args with
  | error e => simp [hw, bind, Except.bind] at h
  | ok w =>
    rw [hw] at h
    obtain rfl := Except.ok.inj h
    exact Option.map_eq_none_iff

end RequestValidation
