import RequestValidation.Text.PrintableTable
/-!
# Quoted text for diagnostics

`quoted s` puts a text between quotes so that it can be told apart from its surroundings: the
quote, the backslash and the usual control characters get a backslash form, and everything that
would not show, or would join the character before it, is written by its code point.
-/
namespace RequestValidation.Text

/-- Can the character be seen as it stands? -/
def isPrintable (c : Char) : Bool :=
  if c.toNat < 128 then 32 ≤ c.toNat && c.toNat < 127
  else inRanges visibleRanges c.toNat

/-- Does the character join the one before it? -/
def isExtender (c : Char) : Bool :=
  128 ≤ c.toNat && inRanges extenderRanges c.toNat

/-- One character between the quotes. -/
def quotedChar (c : Char) : List Char :=
  if c = '\x00' then ['\\', '0']
  else if c = '\t' then ['\\', 't']
  else if c = '\r' then ['\\', 'r']
  else if c = '\n' then ['\\', 'n']
  else if c = '"' then ['\\', '"']
  else if c = '\\' then ['\\', '\\']
  else if isExtender c || !isPrintable c then
    ['\\', 'u', '\x7b'] ++ Nat.toDigits 16 c.toNat ++ ['\x7d']
  else [c]

/-- The text between quotes. -/
def quoted (s : String) : String :=
  String.ofList ('"' :: s.toList.flatMap quotedChar ++ ['"'])

end RequestValidation.Text
