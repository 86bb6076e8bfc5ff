/-!
# E-mail addresses

`isEmail` accepts `local@domain` in at most 254 bytes: dotted atoms before the sign, and behind it
host labels of which the last is a word of at least two letters. Both parts are read from left to
right, one character at a time.
-/
namespace RequestValidation.Format

/-- Characters of an atom: letters, digits and some signs of ASCII. -/
def isAtomChar (c : Char) : Bool :=
  c.isAlphanum || "!#$%&'*+/=?^_\x60\x7b|\x7d~-".toList.contains c

/-- Characters of a host label. -/
def isLabelChar (c : Char) : Bool := c.isAlphanum || c = '-'

/-- At most 63 characters, no hyphen at either end. -/
def isHostLabel (label : List Char) : Bool :=
  !label.isEmpty && label.length ≤ 63 && label.all isLabelChar &&
    label.head? != some '-' && label.getLast? != some '-'

/-- Two letters or more. -/
def isTopLabel (label : List Char) : Bool := 2 ≤ label.length && label.all Char.isAlpha

/-- Reads dotted atoms up to the sign; `started` tells whether the current atom has a character. -/
def afterLocalPart (started : Bool) : List Char → Option (List Char)
  | [] => none
  | c :: rest =>
    if isAtomChar c then afterLocalPart true rest
    else if c = '.' ∧ started then afterLocalPart false rest
    else if c = '@' ∧ started then some rest
    else none

/-- Reads labels to the end; `label` is the current one in reverse, `some` label is the top one only
if others came before it. -/
def isDomain (others : Bool) (label : List Char) : List Char → Bool
  | [] => others && isTopLabel label.reverse
  | c :: rest =>
    if c = '.' then isHostLabel label.reverse && isDomain true [] rest
    else isDomain others (c :: label) rest

/-- The longest address, in bytes. -/
def maxEmailBytes : Nat := 254

/-- Mirrors `email_regex`. -/
def isEmail (text : String) : Bool :=
  text.utf8ByteSize ≤ maxEmailBytes &&
    match afterLocalPart false text.toList with
    | some domain => isDomain false [] domain
    | none => false

end RequestValidation.Format
