import RequestValidation.Json.Basic
import RequestValidation.Yaml.Node
/-!
# Values of YAML documents

What a YAML document is as JSON. The tag of a scalar decides its type; plain text without a tag is
what it looks like. Numbers that are not finite are `null`, as is a document that holds nothing.
Keys are taken as they are written, and of a repeated key the last value counts, in the first place.

A document is refused that needs a tag of its own, an integer beyond 64 bits, a key that is no
scalar, more than 128 levels, or aliases that are followed too often for its size.
-/
namespace RequestValidation.Yaml

/-- The start of the tags that the language itself gives a meaning. -/
def coreTags : String := "tag:yaml.org,2002:"

namespace Node

/-- An integer of 64 bits, signed if it is below zero. -/
def number? (i : Int) : Option Json :=
  if -(Int.pow 2 63) ≤ i ∧ i < Int.pow 2 64 then some (.int i) else none

/-- A number that is not finite has no place in JSON. -/
def ofExtended : Extended64 → Json
  | .finite x => .number (.float x)
  | _ => .null

/-- The value of plain text. -/
def plainValue? (text : String) : Option Json :=
  match resolve text.toList with
  | .null => some .null
  | .bool b => some (.bool b)
  | .int i => number? i
  | .float x => some (ofExtended x)
  | .text => some (.string text)

/-- Does a tag name a type that the document brings along? -/
def isOwnTag (tag : Option String) : Bool := tag.any fun t => t.toList.head? = some '!'

/-- The value of a scalar. A tag that names a type refuses what is not of the type. -/
def scalarValue? (tag : Option String) (style : ScalarStyle) (text : String) : Option Json :=
  match tag with
  | none => if style = .plain then plainValue? text else some (.string text)
  | some t =>
    if t = coreTags ++ "bool" then (boolWord? text).map .bool
    else if t = coreTags ++ "int" then (int? text.toList).bind number?
    else if t = coreTags ++ "float" then (float? text.toList).map ofExtended
    else if t = coreTags ++ "null" then if isNullWord text then some .null else none
    else if isOwnTag tag then none
    else some (.string text)

end Node

namespace Document

/-- How deep collections may be nested. -/
def maxDepth : Nat := 128

/-- How often aliases may be followed. -/
def maxJumps (d : Document) : Nat := 100 * d.eventCount

/-- Counts the aliases that are followed. -/
abbrev Following := StateT Nat Option

/-- The node itself, or the one that an alias stands for. -/
def follow (d : Document) : Node → Following Node
  | .alias number => do
    let jumps ← get
    if d.maxJumps ≤ jumps then failure
    set (jumps + 1)
    d.target? number
  | n => return n

/-- The text of a scalar, which is what a key is. -/
def text (d : Document) (n : Node) : Following String := do
  match ← d.follow n with
  | .scalar _ _ text => return text
  | _ => failure

/-- The value of a node in which collections are nested at most so deep. -/
def value (d : Document) : Nat → Node → Following Json
  | 0, n => do
    match ← d.follow n with
    | .scalar tag style text => Node.scalarValue? tag style text
    | _ => failure
  | depth + 1, n => do
    match ← d.follow n with
    | .scalar tag style text => Node.scalarValue? tag style text
    | .sequence tag items =>
      if Node.isOwnTag tag then failure
      return .array (← items.mapM (value d depth))
    | .mapping tag members =>
      if Node.isOwnTag tag then failure
      let pairs ← members.mapM fun (k, v) => return (← d.text k, ← value d depth v)
      return .object (Members.ofPairs pairs)
    | .alias _ => failure

/-- The value of a document. -/
def toJson? (d : Document) : Option Json :=
  match d.root with
  | none => some .null
  | some n => (d.value maxDepth n).run' 0

end Document

/-- The value that a text spells. -/
def read? (text : String) : Option Json := (Document.ofText? text).bind Document.toJson?

end RequestValidation.Yaml
