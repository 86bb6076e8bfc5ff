/-!
# UUIDs

Thirty-six characters: hexadecimal digits in groups of 8, 4, 4, 4 and 12 with hyphens between.
The first digit of the third group is the version.
-/
namespace RequestValidation.Format

def isHexDigit (c : Char) : Bool :=
  c.isDigit || ('a' ≤ c && c ≤ 'f') || ('A' ≤ c && c ≤ 'F')

/-- Where the hyphens stand. -/
def isHyphenPlace (i : Nat) : Bool := i = 8 || i = 13 || i = 18 || i = 23

/-- Is every character what its place asks for, from place `i` on? -/
def uuidFrom : Nat → List Char → Bool
  | _, [] => true
  | i, c :: rest => (if isHyphenPlace i then c == '-' else isHexDigit c) && uuidFrom (i + 1) rest

/-- The character that carries the version. -/
def versionPlace : Nat := 14

/-- A UUID, of the given version if there is one. -/
def isUuid (version : Option Nat) (text : String) : Bool :=
  let cs := text.toList
  cs.length == 36 && uuidFrom 0 cs &&
    match version with
    | none => true
    | some v => cs[versionPlace]? == some (Nat.digitChar v)

end RequestValidation.Format
