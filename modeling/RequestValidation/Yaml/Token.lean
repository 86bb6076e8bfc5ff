import RequestValidation.Yaml.ScalarText
/-!
# Tokens

A YAML text as a list of tokens. Indentation becomes tokens of its own: a block collection starts
where its first key or dash is indented deeper than what surrounds it and ends at the first line
that is indented less. That a scalar is a key shows only at the colon behind it; the tokens for the
key are then put in before it. Such a key must stand on one line and within 1024 characters of its
colon.
-/
namespace RequestValidation.Yaml

inductive Token where
  | versionDirective (major minor : Nat)
  | tagDirective (handle meaning : String)
  | documentStart
  | documentEnd
  | blockSequenceStart
  | blockMappingStart
  | blockEnd
  | flowSequenceStart
  | flowSequenceEnd
  | flowMappingStart
  | flowMappingEnd
  | blockEntry
  | flowEntry
  | key
  | value
  | alias (name : String)
  | anchor (name : String)
  | tag (handle suffix : String)
  | scalar (style : ScalarStyle) (text : String)
deriving DecidableEq, Repr

/-- A place at which a key may have begun. -/
structure PossibleKey where
  /-- Nothing else may stand here. -/
  required : Bool
  /-- How many tokens are before it. -/
  token : Nat
  index : Nat
  line : Nat
  column : Nat

/-- The state of reading tokens. -/
structure Scan where
  cursor : Cursor
  /-- The tokens so far, last one first. -/
  tokens : List Token := []
  count : Nat := 0
  /-- The columns of the open block collections, innermost first. -/
  indents : List Nat := []
  /-- May a key begin here? -/
  keyAllowed : Bool := true
  /-- The possible key outside of brackets and inside of each open pair, innermost first. -/
  keys : List (Option PossibleKey) := [none]

namespace Scan

/-- Inside of brackets? -/
def inFlow (s : Scan) : Bool := 1 < s.keys.length

def push (s : Scan) (t : Token) : Scan := { s with tokens := t :: s.tokens, count := s.count + 1 }

/-- Puts an element in so that `n` elements are behind it. -/
def insertAt {α : Type} : Nat → α → List α → List α
  | 0, a, l => a :: l
  | _, a, [] => [a]
  | n + 1, a, b :: l => b :: insertAt n a l

/-- Puts a token in behind the first `n`. -/
def insert (s : Scan) (n : Nat) (t : Token) : Scan :=
  { s with tokens := insertAt (s.count - n) t s.tokens, count := s.count + 1 }

def skip (n : Nat) (s : Scan) : Scan := { s with cursor := s.cursor.skipMany n }

/-- Opens a block collection at a column that is deeper than the innermost open one. -/
def openBlock (s : Scan) (column : Nat) (place : Nat) (t : Token) : Scan :=
  if s.inFlow || s.indents.head?.any (column ≤ ·) then s
  else { s.insert place t with indents := column :: s.indents }

/-- Closes the block collections that are deeper than a column, which is before the first one when
there is none. -/
def closeBlocks (column : Option Nat) : List Nat → Scan → Scan
  | [], s => { s with indents := [] }
  | i :: outer, s =>
    if column.all (· < i) then closeBlocks column outer (s.push .blockEnd)
    else { s with indents := i :: outer }

def closeDeeper (s : Scan) (column : Option Nat) : Scan :=
  if s.inFlow then s else closeBlocks column s.indents s

/-- The possible key of the current brackets. -/
def key? (s : Scan) : Option PossibleKey := s.keys.head?.join

def setKey (s : Scan) (k : Option PossibleKey) : Scan := { s with keys := k :: s.keys.drop 1 }

/-- Gives up the possible key; one that is required must not be given up. -/
def dropKey? (s : Scan) : Option Scan :=
  if s.key?.any (·.required) then none else some (s.setKey none)

/-- Notes that a key may begin here. -/
def noteKey? (s : Scan) : Option Scan :=
  if s.keyAllowed then do
    let c := s.cursor
    let required := !s.inFlow && s.indents.head? == some c.column
    let t ← s.dropKey?
    some (t.setKey (some ⟨required, s.count, c.index, c.line, c.column⟩))
  else some s

/-- The greatest distance between a key and its colon. -/
def maxKeyDistance : Nat := 1024

/-- Gives up the possible keys that are too far away or on another line. -/
def dropStale? (s : Scan) : Option Scan := do
  let keys ← s.keys.mapM fun k =>
    match k with
    | none => some none
    | some k =>
      if k.line < s.cursor.line || k.index + maxKeyDistance < s.cursor.index then
        if k.required then none else some none
      else some (some k)
  some { s with keys }

/-- Goes over blanks, comments and line ends. A tab counts as a blank where no key may begin. -/
def skipSpace : Nat → Scan → Scan
  | 0, s => s
  | fuel + 1, s =>
    let tabs := s.inFlow || !s.keyAllowed
    let c := (s.cursor.skipWhile fun ch => ch = ' ' || (tabs && ch = '\t')).skipComment
    if c.atBreak then
      skipSpace fuel { s with cursor := c.skipBreak, keyAllowed := s.keyAllowed || !s.inFlow }
    else { s with cursor := c }

/-! ## Names, tags and directives -/

def isNameChar (c : Char) : Bool := c.isAlphanum || c = '_' || c = '-'

/-- Characters that a name may stand in front of, apart from blanks and breaks. -/
def endsName (c : Cursor) : Bool :=
  c.endsWordAfter 0 || c.peek?.any fun ch => "?:,]\x7d%@\x60".toList.contains ch

/-- The name behind the sign of an anchor or an alias. -/
def name? (c : Cursor) : Option (String × Cursor) :=
  let name := c.rest.takeWhile isNameChar
  let c := c.skipMany name.length
  if name.isEmpty || !endsName c then none else some (String.ofList name, c)

/-- Characters of tags other than those of names. -/
def isTagChar (verbatim : Bool) (c : Char) : Bool :=
  isNameChar c || ";/?:@&=+$.!~*'()".toList.contains c ||
    (verbatim && (c = ',' || c = '[' || c = ']'))

/-- The rest of a tag, escapes by hexadecimal digits included. -/
def tagText? (verbatim : Bool) : Nat → List UInt8 → Cursor → Option (String × Cursor)
  | 0, _, _ => none
  | fuel + 1, text, c =>
    match c.rest with
    | '%' :: a :: b :: _ => do
      let n ← natInRadix? 16 [a, b]
      tagText? verbatim fuel (n.toUInt8 :: text) (c.skipMany 3)
    | ch :: _ =>
      if ch ≠ '%' && isTagChar verbatim ch then
        tagText? verbatim fuel (ch.toNat.toUInt8 :: text) c.skip
      else do some (← String.fromUTF8? ⟨text.reverse.toArray⟩, c)
    | [] => do some (← String.fromUTF8? ⟨text.reverse.toArray⟩, c)

/-- A tag: between angle brackets, behind a handle between two signs, or behind one sign. -/
def tag? (c : Cursor) : Option (Token × Cursor) := do
  let after := c.skip
  let word := after.rest.takeWhile isNameChar
  let (t, behind) ← match after.peek? with
    | some '<' => do
      let (text, c) ← tagText? true (after.rest.length + 1) [] after.skip
      if c.peek? = some '>' && !text.isEmpty then some (Token.tag "" text, c.skip) else none
    | _ =>
      if (after.skipMany word.length).peek? = some '!' then do
        let (text, c) ←
          tagText? false (after.rest.length + 1) [] (after.skipMany (word.length + 1))
        if text.isEmpty then none
        else some (Token.tag ("!" ++ String.ofList word ++ "!") text, c)
      else do
        let (text, c) ← tagText? false (after.rest.length + 1) [] after
        some (if text.isEmpty then Token.tag "" "!" else Token.tag "!" text, c)
  if behind.endsWordAfter 0 then some (t, behind) else none

/-- The end of a directive: blanks and a comment at most. -/
def endOfDirective? (c : Cursor) : Option Cursor :=
  let c := (c.skipWhile isBlank).skipComment
  if c.atLineEnd then some c else none

/-- A number of at most nine digits. -/
def version? (c : Cursor) : Option (Nat × Cursor) :=
  let digits := c.rest.takeWhile Char.isDigit
  if digits.isEmpty || 9 < digits.length then none
  else some (natOfDigits digits, c.skipMany digits.length)

/-- A handle of tags. -/
def handle? (c : Cursor) : Option (String × Cursor) :=
  match c.rest with
  | '!' :: rest =>
    let word := rest.takeWhile isNameChar
    let c := c.skipMany (word.length + 1)
    if c.peek? = some '!' then some ("!" ++ String.ofList word ++ "!", c.skip)
    else if word.isEmpty then some ("!", c)
    else none
  | _ => none

/-- A directive: a version, or what a handle of tags means. -/
def directive? (c : Cursor) : Option (Token × Cursor) := do
  let name := c.skip.rest.takeWhile isNameChar
  let after := c.skipMany (name.length + 1)
  if !after.endsWordAfter 0 then none
  else if name = "YAML".toList then
    let (major, c) ← version? (after.skipWhile isBlank)
    if c.peek? = some '.' then
      let (minor, c) ← version? c.skip
      some (.versionDirective major minor, ← endOfDirective? c)
    else none
  else if name = "TAG".toList then
    let (handle, c) ← handle? (after.skipWhile isBlank)
    if !c.peek?.any isBlank then none
    else
      let c := c.skipWhile isBlank
      let (meaning, c) ← tagText? true (c.rest.length + 1) [] c
      if meaning.isEmpty || !c.endsWordAfter 0 then none
      else some (.tagDirective handle meaning, ← endOfDirective? c)
  else none

/-! ## One token after the other -/

/-- A token outside of all collections that are open. -/
def outermost? (s : Scan) (t : Token) (behind : Cursor) : Option Scan := do
  let s ← (s.closeDeeper none).dropKey?
  some { s.push t with cursor := behind, keyAllowed := false }

/-- A token at which a key may begin and behind which none may. -/
def node? (s : Scan) (t : Token) (behind : Cursor) : Option Scan := do
  let s ← s.noteKey?
  some { s.push t with cursor := behind, keyAllowed := false }

def openFlow? (s : Scan) (t : Token) : Option Scan := do
  let s ← s.noteKey?
  some { (s.push t).skip 1 with keys := none :: s.keys, keyAllowed := true }

def closeFlow? (s : Scan) (t : Token) : Option Scan := do
  let s ← s.dropKey?
  some { (s.push t).skip 1 with
    keys := if s.inFlow then s.keys.drop 1 else s.keys, keyAllowed := false }

def flowEntry? (s : Scan) : Option Scan := do
  let s ← s.dropKey?
  some { (s.push .flowEntry).skip 1 with keyAllowed := true }

def blockEntry? (s : Scan) : Option Scan := do
  if !s.inFlow && !s.keyAllowed then none
  else
    let s ← (s.openBlock s.cursor.column s.count .blockSequenceStart).dropKey?
    some { (s.push .blockEntry).skip 1 with keyAllowed := true }

def explicitKey? (s : Scan) : Option Scan := do
  if !s.inFlow && !s.keyAllowed then none
  else
    let s ← (s.openBlock s.cursor.column s.count .blockMappingStart).dropKey?
    some { (s.push .key).skip 1 with keyAllowed := !s.inFlow }

/-- A colon. The possible key before it becomes one. -/
def value? (s : Scan) : Option Scan :=
  match s.key? with
  | some k =>
    let s := (s.insert k.token .key).openBlock k.column k.token .blockMappingStart
    some { ((s.setKey none).push .value).skip 1 with keyAllowed := false }
  | none =>
    if !s.inFlow && !s.keyAllowed then none
    else
      let s := s.openBlock s.cursor.column s.count .blockMappingStart
      some { (s.push .value).skip 1 with keyAllowed := !s.inFlow }

def quoted? (fuel : Nat) (s : Scan) (quote : Char) (style : ScalarStyle) : Option Scan := do
  let (text, behind) ← readQuoted? quote fuel [] s.cursor.skip
  s.node? (.scalar style (String.ofList text)) behind

def block? (s : Scan) (style : ScalarStyle) : Option Scan := do
  let s ← s.dropKey?
  let (text, behind) ← readBlock? (style = .literal) s.indents.head? s.cursor.skip
  some { s.push (.scalar style (String.ofList text)) with cursor := behind, keyAllowed := true }

def plain? (fuel : Nat) (s : Scan) : Option Scan := do
  let indent := (s.indents.head?.map (· + 1)).getD 0
  let t ← readPlain? s.inFlow indent fuel {} [] s.cursor
  let s ← s.node? (.scalar .plain (String.ofList t.text)) t.behind
  some { s with keyAllowed := t.endsLine }

/-- Characters with which plain text cannot begin. -/
def isIndicator (c : Char) : Bool := "-?:,[]\x7b\x7d#&*!|>'\"%@\x60".toList.contains c

/-- The next token at a character. -/
def token? (fuel : Nat) (s : Scan) (ch : Char) : Option Scan :=
  let c := s.cursor
  let word := c.endsWordAfter 1
  if c.column = 0 && ch = '%' then do
    let (t, behind) ← directive? c
    s.outermost? t behind
  else if c.atMarker '-' then s.outermost? .documentStart (c.skipMany 3)
  else if c.atMarker '.' then s.outermost? .documentEnd (c.skipMany 3)
  else if ch = '[' then s.openFlow? .flowSequenceStart
  else if ch = '\x7b' then s.openFlow? .flowMappingStart
  else if ch = ']' then s.closeFlow? .flowSequenceEnd
  else if ch = '\x7d' then s.closeFlow? .flowMappingEnd
  else if ch = ',' then s.flowEntry?
  else if ch = '-' && word then s.blockEntry?
  else if ch = '?' && (s.inFlow || word) then s.explicitKey?
  else if ch = ':' && (s.inFlow || word) then s.value?
  else if ch = '*' then do
    let (name, behind) ← name? c.skip
    s.node? (.alias name) behind
  else if ch = '&' then do
    let (name, behind) ← name? c.skip
    s.node? (.anchor name) behind
  else if ch = '!' then do
    let (t, behind) ← tag? c
    s.node? t behind
  else if ch = '|' && !s.inFlow then s.block? .literal
  else if ch = '>' && !s.inFlow then s.block? .folded
  else if ch = '\'' then s.quoted? fuel ch .singleQuoted
  else if ch = '"' then s.quoted? fuel ch .doubleQuoted
  else if !isIndicator ch || ch = '-' || (!s.inFlow && (ch = '?' || ch = ':')) then s.plain? fuel
  else none

/-- All tokens up to the end of the text, in so many steps. There are more of them than characters
are left, which is enough for each token too. -/
def run? : Nat → Scan → Option Scan
  | 0, _ => none
  | fuel + 1, s => do
    let s ← (s.skipSpace (fuel + 1)).dropStale?
    match s.cursor.peek? with
    | none => (s.closeDeeper none).dropKey?
    | some ch =>
      let s := s.closeDeeper (some s.cursor.column)
      if ch = '\t' then none else run? fuel (← s.token? (fuel + 1) ch)

end Scan

/-- Characters that a YAML text may hold. -/
def isAllowed (c : Char) : Bool :=
  let n := c.toNat
  n = 9 || n = 10 || n = 13 || (32 ≤ n && n ≤ 0x7E) || n = 0x85 || (0xA0 ≤ n && n ≤ 0xFFFD) ||
    0x10000 ≤ n

/-- The tokens of a text. -/
def Token.ofText? (text : String) : Option (List Token) :=
  let cs := match text.toList with
    | c :: rest => if c.toNat = 0xFEFF then rest else c :: rest
    | [] => []
  if cs.all isAllowed then
    (Scan.run? (cs.length + 1) { cursor := { rest := cs } }).map (·.tokens.reverse)
  else none

end RequestValidation.Yaml
