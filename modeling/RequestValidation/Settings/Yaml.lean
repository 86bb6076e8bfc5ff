import RequestValidation.Settings.Shape
import RequestValidation.Yaml.Value
/-!
# Settings in YAML

Settings are read off the nodes of a YAML document. Text is any scalar as it is written, a flag a
plain one, and what may be left out is so by a plain word for `null`. The empty plain scalar
stands for a list without items and for a record without fields.
-/
namespace RequestValidation.Setting

open Yaml (Document Node)

/-- A node that is no alias. -/
def resolved? (d : Document) : Node → Option Node
  | .alias number => d.target? number
  | n => some n

/-- The text of a scalar. -/
def scalarText? (d : Document) (n : Node) : Option String :=
  match resolved? d n with
  | some (.scalar _ _ written) => some written
  | _ => none

/-- The flag that a scalar spells: a plain one, or a literal one with the tag of flags. -/
def flagOf? : Node → Option Bool
  | .scalar tag style written =>
    if style = .plain || (style = .literal && tag = some (Yaml.coreTags ++ "bool")) then
      Yaml.boolWord? written
    else none
  | _ => none

/-- Is a node a word for `null`? A tag that says so must not stand at another word. -/
def isNull? : Node → Option Bool
  | .scalar none .plain written => some (written.isEmpty || Yaml.isNullWord written)
  | .scalar (some tag) .plain written =>
    if tag = Yaml.coreTags ++ "null" then if Yaml.isNullWord written then some true else none
    else some false
  | _ => some false

/-- Is a node the empty plain scalar? -/
def isEmptyPlain : Node → Bool
  | .scalar _ .plain written => written.isEmpty
  | _ => false

/-- The fields of a record from the first one on. -/
def nodesInOrder? :
    List (String × (Node → Option Setting)) → List Node → Option (Members Setting)
  | _, [] => some []
  | [], _ :: _ => none
  | (name, read) :: more, n :: rest => do
    let v ← read n
    some ((name, v) :: (← nodesInOrder? more rest))

/-- The fields of a record by name; the rest is passed over. -/
def nodesByName? (d : Document) (fields : List (String × (Node → Option Setting))) :
    List (Node × Node) → Members Setting → Option (Members Setting)
  | [], known => some known
  | (k, n) :: rest, known => do
    let name ← scalarText? d k
    match fields.lookup name with
    | none => nodesByName? d fields rest known
    | some read =>
      if known.contains name then none
      else nodesByName? d fields rest (known.insert name (← read n))

def recordOf? (d : Document) (fields : List (String × (Node → Option Setting))) :
    Node → Option Setting
  | .sequence _ items => (nodesInOrder? fields items).map .record
  | .mapping _ members => (nodesByName? d fields members []).map .record
  | n => if isEmptyPlain n then some (.record []) else none

mutual

/-- A setting of some shape as a node. -/
def ofNode? (d : Document) : Shape → Node → Option Setting
  | .text, n => (scalarText? d n).map .text
  | .flag, n => do (flagOf? (← resolved? d n)).map .flag
  | .optional s, n => do
    let target ← resolved? d n
    if ← isNull? target then some .absent else ofNode? d s target
  | .list s, n => do
    match ← resolved? d n with
    | .sequence _ items => (items.mapM (ofNode? d s)).map .list
    | n => if isEmptyPlain n then some (.list []) else none
  | .record _ fields, n => do recordOf? d (fieldNodes d fields) (← resolved? d n)

def fieldNodes (d : Document) :
    List (String × Shape) → List (String × (Node → Option Setting))
  | [] => []
  | (name, s) :: rest => (name, ofNode? d s) :: fieldNodes d rest

end

/-- The settings that a whole YAML text spells. -/
def ofYamlText? (s : Shape) (text : String) : Option Setting := do
  let d ← Document.ofText? text
  ofNode? d s (d.root.getD .empty)

end RequestValidation.Setting
