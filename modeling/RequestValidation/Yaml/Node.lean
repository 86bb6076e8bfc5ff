import RequestValidation.Members
import RequestValidation.Yaml.Token
/-!
# Nodes

The tree that the tokens of a document spell. An alias stays a leaf and names its node by a number:
how many different names of anchors came before it. A name that is given twice gets a new number.

What is not there is the empty plain scalar, as behind a colon at the end of a line. In a flow
sequence, a question mark without a key takes the sign that follows with it.
-/
namespace RequestValidation.Yaml

inductive Node where
  | scalar (tag : Option String) (style : ScalarStyle) (text : String)
  | sequence (tag : Option String) (items : List Node)
  | mapping (tag : Option String) (members : List (Node × Node))
  | alias (number : Nat)
deriving Inhabited

namespace Node

/-- The node that stands where nothing is written. -/
def empty : Node := .scalar none .plain ""

mutual

/-- The beginnings and the ends in a node: two for a collection, one for any other. -/
def eventCount : Node → Nat
  | .scalar .. => 1
  | .sequence _ items => itemsCount items + 2
  | .mapping _ members => membersCount members + 2
  | .alias _ => 1

def itemsCount : List Node → Nat
  | [] => 0
  | n :: rest => eventCount n + itemsCount rest

def membersCount : List (Node × Node) → Nat
  | [] => 0
  | (k, v) :: rest => eventCount k + eventCount v + membersCount rest

end

end Node

/-- A document; one that holds nothing has no root. -/
structure Document where
  root : Option Node
  /-- The nodes with an anchor, the last one first. -/
  anchored : List (Nat × Node)

namespace Document

/-- What is left to read, and what is known. -/
structure Reading where
  tokens : List Token
  /-- What the handles of tags mean. -/
  handles : Members String
  /-- The number of each name. -/
  numbers : Members Nat := []
  anchored : List (Nat × Node) := []

abbrev Parse := StateT Reading Option

def skip : Parse Unit := modify fun s => { s with tokens := s.tokens.drop 1 }

/-- Is the next token one of these? -/
def nextIs (ts : List Token) : Parse Bool := do
  return (← get).tokens.head?.any ts.contains

/-- Goes over a token if it comes next. -/
def accept (t : Token) : Parse Bool := do
  if ← nextIs [t] then
    skip
    return true
  else return false

def expect (t : Token) : Parse Unit := do
  if !(← accept t) then failure

/-- An anchor and a tag in either order, and the tokens behind them. -/
def properties : List Token → Option String × Option (String × String) × List Token
  | .anchor name :: .tag handle suffix :: rest => (some name, some (handle, suffix), rest)
  | .tag handle suffix :: .anchor name :: rest => (some name, some (handle, suffix), rest)
  | .anchor name :: rest => (some name, none, rest)
  | .tag handle suffix :: rest => (none, some (handle, suffix), rest)
  | rest => (none, none, rest)

/-- A whole tag: what its handle means with the suffix behind it. -/
def meaning : Option (String × String) → Parse (Option String)
  | none => return none
  | some ("", suffix) => return some suffix
  | some (handle, suffix) => do
    match (← get).handles.get? handle with
    | some start => return some (start ++ suffix)
    | none => failure

/-- The number for a name that is given to a node. -/
def declare (name : String) : Parse Nat := do
  let number := (← get).numbers.length
  modify fun s => { s with numbers := s.numbers.insert name number }
  return number

/-- Reads a node with an anchor on it. What is anchored inside of it counts as later. -/
def anchoredAs (name : Option String) (p : Parse Node) : Parse Node :=
  match name with
  | none => p
  | some name => do
    let number ← declare name
    let outside := (← get).anchored
    modify fun s => { s with anchored := [] }
    let n ← p
    modify fun s => { s with anchored := s.anchored ++ (number, n) :: outside }
    return n

mutual

/-- A node. Collections in block style may stand outside of brackets only. A sequence without
indentation of its own is a key or a value of a block mapping. -/
def node : Nat → (block indentless : Bool) → Parse Node
  | 0, _, _ => failure
  | fuel + 1, block, indentless => do
    match (← get).tokens with
    | .alias name :: _ =>
      skip
      match (← get).numbers.get? name with
      | some number => return .alias number
      | none => failure
    | tokens =>
      let (name, tag, rest) := properties tokens
      modify fun s => { s with tokens := rest }
      let tag ← meaning tag
      anchoredAs name (content fuel block indentless tag (name.isSome || tag.isSome))

/-- What follows the properties of a node; without any it must not be missing. -/
def content : Nat → (block indentless : Bool) → Option String → Bool → Parse Node
  | 0, _, _, _, _ => failure
  | fuel + 1, block, indentless, tag, mayMiss => do
    match (← get).tokens.head? with
    | some (.scalar style text) =>
      skip
      return .scalar (if tag = some "!" then none else tag) style text
    | some .flowSequenceStart =>
      skip
      return .sequence tag (← flowItems fuel true)
    | some .flowMappingStart =>
      skip
      return .mapping tag (← flowMembers fuel true)
    | some .blockSequenceStart =>
      if !block then failure
      skip
      return .sequence tag (← blockItems fuel true)
    | some .blockMappingStart =>
      if !block then failure
      skip
      return .mapping tag (← blockMembers fuel)
    | some .blockEntry =>
      if indentless then return .sequence tag (← blockItems fuel false)
      else if mayMiss then return .scalar tag .plain "" else failure
    | _ => if mayMiss then return .scalar tag .plain "" else failure

/-- A node, unless one of some tokens comes instead. -/
def nodeUnless : Nat → List Token → (block indentless : Bool) → Parse Node
  | 0, _, _, _ => failure
  | fuel + 1, stops, block, indentless => do
    if ← nextIs stops then return .empty else node fuel block indentless

/-- The items of a block sequence; one with indentation of its own has an end. -/
def blockItems : Nat → (indented : Bool) → Parse (List Node)
  | 0, _ => failure
  | fuel + 1, indented => do
    if ← accept .blockEntry then
      let stops := if indented then [.blockEntry, .blockEnd]
        else [.blockEntry, .key, .value, .blockEnd]
      let n ← nodeUnless fuel stops true false
      return n :: (← blockItems fuel indented)
    else
      if indented then expect .blockEnd
      return []

def blockMembers : Nat → Parse (List (Node × Node))
  | 0 => failure
  | fuel + 1 => do
    let stops := [.key, .value, .blockEnd]
    if ← accept .key then
      let k ← nodeUnless fuel stops true true
      let v ← if ← accept .value then nodeUnless fuel stops true true else pure .empty
      return (k, v) :: (← blockMembers fuel)
    else
      expect .blockEnd
      return []

/-- The items up to the closing bracket; a comma may stand behind the last one. -/
def flowItems : Nat → (first : Bool) → Parse (List Node)
  | 0, _ => failure
  | fuel + 1, first => do
    if ← accept .flowSequenceEnd then return []
    else
      if !first then expect .flowEntry
      if ← accept .flowSequenceEnd then return []
      else
        let n ← if ← accept .key then singlePair fuel else node fuel false false
        return n :: (← flowItems fuel false)

/-- A mapping with one member, as an item of a flow sequence. -/
def singlePair : Nat → Parse Node
  | 0 => failure
  | fuel + 1 => do
    let k ←
      if ← nextIs [.value, .flowEntry, .flowSequenceEnd] then
        skip
        pure .empty
      else node fuel false false
    let v ←
      if ← accept .value then nodeUnless fuel [.flowEntry, .flowSequenceEnd] false false
      else pure .empty
    return .mapping none [(k, v)]

/-- The members up to the closing brace; a comma may stand behind the last one. -/
def flowMembers : Nat → (first : Bool) → Parse (List (Node × Node))
  | 0, _ => failure
  | fuel + 1, first => do
    if ← accept .flowMappingEnd then return []
    else
      if !first then expect .flowEntry
      if ← accept .flowMappingEnd then return []
      else
        let stops := [.flowEntry, .flowMappingEnd]
        let member ←
          if ← accept .key then
            let k ← nodeUnless fuel (.value :: stops) false false
            let v ← if ← accept .value then nodeUnless fuel stops false false else pure .empty
            pure (k, v)
          else pure (← node fuel false false, .empty)
        return member :: (← flowMembers fuel false)

end

/-- Handles that need no directive. -/
def knownHandles : Members String := [("!", "!"), ("!!", "tag:yaml.org,2002:")]

/-- The directives before a document: at most one for the version, which must be one of two, and
at most one for each handle. -/
def directives? : List Token → (versioned : Bool) → Members String →
    Option (Members String × List Token)
  | .versionDirective major minor :: rest, versioned, handles =>
    if versioned || major ≠ 1 || (minor ≠ 1 && minor ≠ 2) then none
    else directives? rest true handles
  | .tagDirective handle start :: rest, versioned, handles =>
    if handles.contains handle then none
    else directives? rest versioned (handles.insert handle start)
  | rest, _, handles =>
    some (knownHandles.foldl (fun hs p => hs.insertNew p.1 p.2) handles, rest)

/-- Does a document behind its mark have no node before this token? -/
def endsContent : Option Token → Bool
  | none => true
  | some (.versionDirective ..) => true
  | some (.tagDirective ..) => true
  | some t => t = .documentStart || t = .documentEnd

/-- A document up to the end of the tokens; a second one must not follow. -/
def read? : List Token → Option Document
  | [] => some ⟨none, []⟩
  | t :: rest => do
    let tokens := t :: rest
    let marked := t ≠ .documentEnd && endsContent (some t)
    let (handles, tokens) ← directives? tokens false []
    let tokens ←
      match marked, tokens with
      | true, .documentStart :: rest => some rest
      | true, _ => none
      | false, _ => some tokens
    let parse : Parse Node :=
      if marked && endsContent tokens.head? then return .empty
      else node (4 * (tokens.length + 1)) true false
    let (root, s) ← parse.run { tokens, handles }
    if s.tokens.all (· == .documentEnd) then some ⟨some root, s.anchored⟩ else none

/-- The document that a text spells. -/
def ofText? (text : String) : Option Document := (Token.ofText? text).bind read?

/-- The beginnings and the ends in a document. -/
def eventCount (d : Document) : Nat := (d.root.map Node.eventCount).getD 1

/-- The node that an alias stands for. -/
def target? (d : Document) (number : Nat) : Option Node := d.anchored.lookup number

end Document

end RequestValidation.Yaml
