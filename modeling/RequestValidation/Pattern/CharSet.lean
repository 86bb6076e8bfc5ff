import RequestValidation.Pattern.PropertyTable
import RequestValidation.Text.Case
import RequestValidation.Text.Blank
/-!
# Sets of characters in patterns

A set is kept as the expression that was written and tested by membership, so complements and
intersections need no normal form. `folded` closes a set under differences of case.
-/
namespace RequestValidation.Pattern

inductive CharSet where
  | ranges (rs : List (Nat × Nat))
  | union (a b : CharSet)
  | inter (a b : CharSet)
  | compl (a : CharSet)
  | folded (a : CharSet)

namespace CharSet

def contains : CharSet → Char → Bool
  | ranges rs, c => Text.inRanges rs c.toNat
  | union a b, c => a.contains c || b.contains c
  | inter a b, c => a.contains c && b.contains c
  | compl a, c => !a.contains c
  | folded a, c => a.contains c || (Text.foldClass c).any a.contains

def none : CharSet := ranges []

def all : CharSet := ranges [(0, 0x10FFFF)]

def single (c : Char) : CharSet := ranges [(c.toNat, c.toNat)]

/-- The characters of the first set that are not in the second. -/
def diff (a b : CharSet) : CharSet := a.inter b.compl

/-- The characters that are in exactly one of the two sets. -/
def symmDiff (a b : CharSet) : CharSet := (a.diff b).union (b.diff a)

def complIf (negated : Bool) (a : CharSet) : CharSet := if negated then a.compl else a

def foldedIf (fold : Bool) (a : CharSet) : CharSet := if fold then a.folded else a

end CharSet

/-- The ranges of word characters. -/
def wordRanges : List (Nat × Nat) := decodeRuns wordRow

/-- Characters of words: ASCII ones are decided first. -/
def isWordChar (c : Char) : Bool :=
  if c.toNat < 128 then c.isAlphanum || c = '_' else Text.inRanges wordRanges c.toNat

def isAsciiWordChar (c : Char) : Bool := c.isAlphanum || c = '_'

/-- A property name without what does not matter in it. -/
def looseName (s : String) : String :=
  let letters := (s.toList.filter fun c => c != ' ' && c != '_' && c != '-').map Char.toLower
  String.ofList (if letters.take 2 = ['i', 's'] && 3 < letters.length then letters.drop 2
    else letters)

def findProperty? (table : List Property) (name : String) : Option CharSet :=
  (table.find? (·.names.contains name)).map fun p => .ranges (decodeRuns p.row)

/-- The union of the general categories with the given short names. -/
def categoryUnion (names : List String) : CharSet :=
  .ranges ((categories.filter fun p => p.names.any names.contains).flatMap
    fun p => decodeRuns p.row)

/-- Groups of general categories. -/
def categoryGroups : List (List String × List String) := [
  (["l", "letter"], ["lu", "ll", "lt", "lm", "lo"]),
  (["lc", "casedletter"], ["lu", "ll", "lt"]),
  (["m", "mark", "combiningmark"], ["mn", "mc", "me"]),
  (["n", "number"], ["nd", "nl", "no"]),
  (["p", "punctuation", "punct"], ["pc", "pd", "ps", "pe", "pi", "pf", "po"]),
  (["s", "symbol"], ["sm", "sc", "sk", "so"]),
  (["z", "separator"], ["zs", "zl", "zp"]),
  (["c", "other"], ["cc", "cf", "co", "cn"])]

def category? (name : String) : Option CharSet :=
  if name = "any" then some .all
  else if name = "ascii" then some (.ranges [(0, 127)])
  else if name = "assigned" then (findProperty? categories "cn").map .compl
  else match categoryGroups.find? (·.1.contains name) with
    | some group => some (categoryUnion group.2)
    | none => findProperty? categories name

/-- The characters with a property given by one name. -/
def property? (name : String) : Option CharSet :=
  let name := looseName name
  (findProperty? flagProperties name).or ((category? name).or (findProperty? scripts name))

/-- The characters with a value of a property. -/
def propertyValue? (property value : String) : Option CharSet :=
  let property := looseName property
  let value := looseName value
  if property = "generalcategory" ∨ property = "gc" then category? value
  else if property = "script" ∨ property = "sc" ∨ property = "scriptextensions"
      ∨ property = "scx" then findProperty? scripts value
  else none

/-- Classes of ASCII characters that have a name between colons. -/
def asciiClass? (name : String) : Option CharSet :=
  let sets : List (String × List (Nat × Nat)) := [
    ("alnum", [(48, 57), (65, 90), (97, 122)]),
    ("alpha", [(65, 90), (97, 122)]),
    ("ascii", [(0, 127)]),
    ("blank", [(9, 9), (32, 32)]),
    ("cntrl", [(0, 31), (127, 127)]),
    ("digit", [(48, 57)]),
    ("graph", [(33, 126)]),
    ("lower", [(97, 122)]),
    ("print", [(32, 126)]),
    ("punct", [(33, 47), (58, 64), (91, 96), (123, 126)]),
    ("space", [(9, 13), (32, 32)]),
    ("upper", [(65, 90)]),
    ("word", [(48, 57), (65, 90), (95, 95), (97, 122)]),
    ("xdigit", [(48, 57), (65, 70), (97, 102)])]
  (sets.lookup name).map .ranges

/-- White space as ranges. -/
def spaceSet : CharSet :=
  .ranges [(9, 13), (32, 32), (133, 133), (160, 160), (5760, 5760), (8192, 8202), (8232, 8233),
    (8239, 8239), (8287, 8287), (12288, 12288)]

end RequestValidation.Pattern
