import RequestValidation.Json.Basic
/-!
# Printing JSON

`Json.compact` writes a document without white space, `Json.pretty` with two blanks for each level
of nesting and a line for every item; empty arrays and objects stay on one line in both. In
strings the quote, the backslash and the control characters are escaped, five of those by letters
and the others by four hexadecimal digits; everything else is written as it is.
-/
namespace RequestValidation.Json

/-- A hexadecimal digit in small letters. -/
def hexDigit (n : Nat) : Char := Nat.digitChar (n % 16)

/-- One character inside a string literal. -/
def escapeChar (c : Char) : List Char :=
  if c = '"' then ['\\', '"']
  else if c = '\\' then ['\\', '\\']
  else if c.toNat = 8 then ['\\', 'b']
  else if c.toNat = 9 then ['\\', 't']
  else if c.toNat = 10 then ['\\', 'n']
  else if c.toNat = 12 then ['\\', 'f']
  else if c.toNat = 13 then ['\\', 'r']
  else if c.toNat < 32 then
    ['\\', 'u', '0', '0', hexDigit (c.toNat / 16), hexDigit c.toNat]
  else [c]

/-- A string literal. -/
def quote (s : String) : List Char :=
  '"' :: s.toList.flatMap escapeChar ++ ['"']

/-- Joins texts with a separator between them. -/
def joinWith (separator : List Char) : List (List Char) → List Char
  | [] => []
  | [x] => x
  | x :: y :: rest => x ++ separator ++ joinWith separator (y :: rest)

mutual

/-- The document without white space. -/
def chars : Json → List Char
  | .null => "null".toList
  | .bool b => (if b then "true" else "false").toList
  | .number n => n.text.toList
  | .string s => quote s
  | .array items => '[' :: joinWith [','] (itemChars items) ++ [']']
  | .object members => '\x7b' :: joinWith [','] (memberChars members) ++ ['\x7d']

/-- The items of an array, each without white space. -/
def itemChars : List Json → List (List Char)
  | [] => []
  | v :: rest => v.chars :: itemChars rest

/-- The members of an object, each without white space. -/
def memberChars : List (String × Json) → List (List Char)
  | [] => []
  | (k, v) :: rest => (quote k ++ ':' :: v.chars) :: memberChars rest

end

/-- A new line indented by a number of levels. -/
def newLine (level : Nat) : List Char := '\n' :: List.replicate (2 * level) ' '

/-- Brackets around parts that stand on lines of their own. -/
def block (level : Nat) (opening closing : Char) (parts : List (List Char)) : List Char :=
  if parts.isEmpty then [opening, closing]
  else
    opening :: newLine (level + 1) ++ joinWith (',' :: newLine (level + 1)) parts ++
      newLine level ++ [closing]

mutual

/-- The document with a line for each item, at a level of nesting. -/
def prettyChars (level : Nat) : Json → List Char
  | .array items => block level '[' ']' (prettyItems (level + 1) items)
  | .object members => block level '\x7b' '\x7d' (prettyMembers (level + 1) members)
  | .null => "null".toList
  | .bool b => (if b then "true" else "false").toList
  | .number n => n.text.toList
  | .string s => quote s

def prettyItems (level : Nat) : List Json → List (List Char)
  | [] => []
  | v :: rest => v.prettyChars level :: prettyItems level rest

def prettyMembers (level : Nat) : List (String × Json) → List (List Char)
  | [] => []
  | (k, v) :: rest => (quote k ++ ':' :: ' ' :: v.prettyChars level) :: prettyMembers level rest

end

/-- Compact text; mirrors `to_string`. -/
def compact (v : Json) : String := String.ofList v.chars

/-- Indented text; mirrors `to_string_pretty`. -/
def pretty (v : Json) : String := String.ofList (v.prettyChars 0)

end RequestValidation.Json
