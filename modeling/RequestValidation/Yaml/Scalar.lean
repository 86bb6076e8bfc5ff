import RequestValidation.Decimal.Numeral
/-!
# Scalars

A scalar is text in one of five styles. Only plain text without a tag is more than text: it is
`null`, a boolean, an integer or a floating point number if it is spelled like one. Integers may
be written in decimal, or with `0x`, `0o` and `0b` in another radix; digits that begin with a
superfluous zero are text.
-/
namespace RequestValidation.Yaml

/-- The characters that end a line. -/
def isBreak (c : Char) : Bool :=
  c = '\n' || c = '\r' || c.toNat = 0x85 || c.toNat = 0x2028 || c.toNat = 0x2029

def isBlank (c : Char) : Bool := c = ' ' || c = '\t'

def isBlankOrBreak (c : Char) : Bool := isBlank c || isBreak c

/-- How a scalar is written. -/
inductive ScalarStyle where
  | plain
  | singleQuoted
  | doubleQuoted
  | literal
  | folded
deriving DecidableEq, Repr

/-- What plain text stands for. -/
inductive PlainValue where
  | null
  | bool (b : Bool)
  | int (i : Int)
  | float (x : Extended64)
  | text
deriving DecidableEq, Repr

def isNullWord (s : String) : Bool := ["null", "Null", "NULL", "~"].contains s

def boolWord? (s : String) : Option Bool :=
  if ["true", "True", "TRUE"].contains s then some true
  else if ["false", "False", "FALSE"].contains s then some false
  else none

/-- Digits with an optional sign, the first of several a zero. -/
def hasSuperfluousZero (cs : List Char) : Bool :=
  let (_, digits) := splitSign cs
  match digits with
  | '0' :: d :: rest => (d :: rest).all Char.isDigit
  | _ => false

/-- The value of a digit, letters counting on from ten. -/
def digitValue (c : Char) : Nat :=
  if c.isDigit then c.toNat - '0'.toNat
  else if c.isLower then c.toNat - 'a'.toNat + 10
  else if c.isUpper then c.toNat - 'A'.toNat + 10
  else 36

/-- A run of digits of a radix. -/
def natInRadix? (radix : Nat) (cs : List Char) : Option Nat :=
  if cs.isEmpty || cs.any (radix ≤ digitValue ·) then none
  else some (cs.foldl (fun n c => n * radix + digitValue c) 0)

/-- Digits in the radix that their first two characters name; decimal ones without. -/
def magnitude? : List Char → Option Nat
  | '0' :: 'x' :: rest => natInRadix? 16 rest
  | '0' :: 'o' :: rest => natInRadix? 8 rest
  | '0' :: 'b' :: rest => natInRadix? 2 rest
  | cs => if hasSuperfluousZero cs then none else natInRadix? 10 cs

/-- An integer of at most 128 bits, signed if it has a minus. -/
def int? (cs : List Char) : Option Int :=
  let (negative, digits) := splitSign cs
  match magnitude? digits with
  | none => none
  | some n =>
    if negative then if n ≤ Nat.pow 2 127 then some (-(n : Int)) else none
    else if n < Nat.pow 2 128 then some n
    else none

/-- A finite decimal number, or a word for an infinity or the not-a-number. -/
def float? (cs : List Char) : Option Extended64 :=
  let s := String.ofList cs
  if [".inf", ".Inf", ".INF", "+.inf", "+.Inf", "+.INF"].contains s then some (.infinite false)
  else if ["-.inf", "-.Inf", "-.INF"].contains s then some (.infinite true)
  else if [".nan", ".NaN", ".NAN"].contains s then some .nan
  else
    match Numeral.read? cs with
    | some n => n.value.finite?.map .finite
    | none => none

/-- What plain text without a tag stands for. -/
def resolve (cs : List Char) : PlainValue :=
  let s := String.ofList cs
  if cs.isEmpty || isNullWord s then .null
  else match boolWord? s with
    | some b => .bool b
    | none =>
      match int? cs with
      | some i => .int i
      | none =>
        if hasSuperfluousZero cs then .text
        else match float? cs with
          | some x => .float x
          | none => .text

end RequestValidation.Yaml
