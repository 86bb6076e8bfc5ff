import RequestValidation.Json.Basic
import RequestValidation.Yaml.Scalar
/-!
# Printing YAML

`Json.yaml` writes a document in block style. Items stand behind a dash, members behind their
name and a colon; a collection inside an item begins on the same line, one inside a member on the
next, a sequence there without further indentation. Empty collections are written in brackets.

A string is plain unless it would then be read as something else or not at all. Text of several
lines is written as a literal block as far as that can hold it, other text between single quotes,
and what neither can hold between double quotes with escapes. A name that is long or has several
lines stands behind a question mark.

The text is laid out by a pen, which knows its column, whether a blank precedes it and whether the
line holds nothing but indentation and indicators yet.
-/
namespace RequestValidation.Yaml

/-- The place where writing goes on. -/
structure Pen where
  /-- What has been written, last character first. -/
  written : List Char := []
  column : Nat := 0
  afterBlank : Bool := true
  onlyIndented : Bool := true

namespace Pen

def put (p : Pen) (c : Char) : Pen := { p with written := c :: p.written, column := p.column + 1 }

def putAll (p : Pen) (cs : List Char) : Pen := cs.foldl put p

/-- Writes a character that ends a line. -/
def putBreak (p : Pen) (c : Char) : Pen := { p with written := c :: p.written, column := 0 }

/-- Goes to a column on a line of its own, on the same line if nothing is in the way. -/
def goTo (p : Pen) (indent : Nat) : Pen :=
  let p :=
    if !p.onlyIndented || indent < p.column || (p.column == indent && !p.afterBlank) then
      p.putBreak '\n'
    else p
  let p := p.putAll (List.replicate (indent - p.column) ' ')
  { p with afterBlank := true, onlyIndented := true }

/-- A blank unless there is one already. -/
def separate (p : Pen) : Pen := if p.afterBlank then p else p.put ' '

/-- Writes an indicator behind a blank. -/
def indicator (p : Pen) (cs : List Char) : Pen :=
  { p.separate.putAll cs with afterBlank := false, onlyIndented := false }

/-- Writes an indicator behind which a collection may begin on the same line. -/
def opener (p : Pen) (c : Char) : Pen := { p.separate.put c with afterBlank := false }

/-- Writes a closing indicator or a hint, with no blank before it. -/
def attach (p : Pen) (cs : List Char) : Pen :=
  { p.putAll cs with afterBlank := false, onlyIndented := false }

end Pen

/-- Can the character stand in text as it is? -/
def isPrintable (c : Char) : Bool :=
  let n := c.toNat
  n = 0x0A || (0x20 ≤ n && n ≤ 0x7E) || (0xA0 ≤ n && n ≤ 0xD7FF) ||
    (0xE000 ≤ n && n ≤ 0xFFFD && n ≠ 0xFEFF) || 0x10000 ≤ n

/-- Characters with which plain text cannot begin. -/
def isLeadingIndicator (c : Char) : Bool :=
  "#,[]\x7b\x7d&*!|>'\"%@\x60".toList.contains c

/-- Is this the end of the text, or does a blank or a break follow? -/
def endsWord : List Char → Bool
  | [] => true
  | c :: _ => isBlankOrBreak c

/-- Would an indicator be seen behind a character that is a blank or not? -/
def hasInnerIndicator : Bool → List Char → Bool
  | _, [] => false
  | afterBlank, c :: rest =>
    (c = ':' && endsWord rest) || (c = '#' && afterBlank) ||
      hasInnerIndicator (isBlankOrBreak c) rest

/-- Would an indicator be seen in plain text outside of brackets? -/
def hasIndicator (cs : List Char) : Bool :=
  "---".toList.isPrefixOf cs || "...".toList.isPrefixOf cs ||
    match cs with
    | [] => false
    | c :: rest =>
      isLeadingIndicator c || ((c = '?' || c = ':' || c = '-') && endsWord rest) ||
        hasInnerIndicator (isBlankOrBreak c) rest

/-- Does a character of one class directly precede one of another? -/
def hasPair (p q : Char → Bool) : List Char → Bool
  | a :: b :: rest => (p a && q b) || hasPair p q (b :: rest)
  | _ => false

/-- Which ways of writing a text hold it. -/
structure Holders where
  plain : Bool
  singleQuoted : Bool
  literal : Bool

def holders (cs : List Char) : Holders :=
  let isSpace (c : Char) : Bool := c = ' '
  let special := cs.any (!isPrintable ·)
  let spaceBreak := hasPair isSpace isBreak cs
  let breakSpace := hasPair isBreak isSpace cs
  let edge (c : Option Char) : Bool := c.any fun c => isSpace c || isBreak c
  { plain := !(edge cs.head? || edge cs.getLast? || breakSpace || spaceBreak || special ||
      cs.any isBreak || hasIndicator cs)
    singleQuoted := !(breakSpace || spaceBreak || special)
    literal := !(cs.isEmpty || cs.getLast?.any isSpace || spaceBreak || special) }

/-- The style of a string. -/
def styleOf (cs : List Char) : ScalarStyle :=
  let h := holders cs
  if cs.contains '\n' then if h.literal then .literal else .doubleQuoted
  else if h.plain && resolve cs = .text && !hasSuperfluousZero cs then .plain
  else if h.singleQuoted then .singleQuoted
  else .doubleQuoted

/-- A hexadecimal number in capital letters with a number of places. -/
def hexText (places n : Nat) : List Char :=
  let digits := (Nat.toDigits 16 n).map Char.toUpper
  List.replicate (places - digits.length) '0' ++ digits

/-- The letter of a short escape. -/
def escapeLetter? (c : Char) : Option Char :=
  [(0, '0'), (7, 'a'), (8, 'b'), (9, 't'), (10, 'n'), (11, 'v'), (12, 'f'), (13, 'r'), (27, 'e'),
    (34, '"'), (92, '\\'), (0x85, 'N'), (0xA0, '_'), (0x2028, 'L'), (0x2029, 'P')].lookup c.toNat

/-- One character between double quotes. -/
def escapeChar (c : Char) : List Char :=
  if !isPrintable c || isBreak c || c = '"' || c = '\\' then
    match escapeLetter? c with
    | some l => ['\\', l]
    | none =>
      if c.toNat ≤ 0xFF then '\\' :: 'x' :: hexText 2 c.toNat
      else if c.toNat ≤ 0xFFFF then '\\' :: 'u' :: hexText 4 c.toNat
      else '\\' :: 'U' :: hexText 8 c.toNat
  else [c]

/-- Text in which a line begins at a column. `atStart` tells that the pen has just ended a line. -/
def putLines (indent : Nat) (quote : Bool) : Bool → List Char → Pen → Bool × Pen
  | atStart, [], p => (atStart, p)
  | atStart, c :: rest, p =>
    if isBreak c then putLines indent quote true rest { p.putBreak c with onlyIndented := true }
    else
      let p := if atStart then p.goTo indent else p
      let p := if quote && c = '\'' then p.put '\'' else p
      putLines indent quote false rest { p.put c with onlyIndented := false }

/-- The indicators behind the sign of a literal block: how far it is indented if its first line
does not show that, and what becomes of the breaks at its end. -/
def literalHints (cs : List Char) : List Char :=
  let indented := match cs with
    | c :: _ => if c = ' ' || isBreak c then ['2'] else []
    | [] => []
  let chomp := match cs.reverse with
    | [] => ['-']
    | last :: rest =>
      if !isBreak last then ['-']
      else match rest with
        | [] => ['+']
        | before :: _ => if isBreak before then ['+'] else []
  indented ++ chomp

def putLiteral (indent : Nat) (cs : List Char) (p : Pen) : Pen :=
  let p := p.indicator ['|']
  let hints := literalHints cs
  let p := if hints.isEmpty then p else p.attach hints
  let p := { p.putBreak '\n' with onlyIndented := true, afterBlank := true }
  (putLines indent false true cs p).2

def putSingleQuoted (indent : Nat) (cs : List Char) (p : Pen) : Pen :=
  let (atStart, p) := putLines indent true false cs (p.indicator ['\''])
  (if atStart then p.goTo indent else p).attach ['\'']

/-- Writes a scalar; lines behind the first begin at a column. -/
def putScalar (indent : Nat) (style : ScalarStyle) (cs : List Char) (p : Pen) : Pen :=
  match style with
  | .literal => putLiteral indent cs p
  | .singleQuoted => putSingleQuoted indent cs p
  | .doubleQuoted => ((p.indicator ['"']).putAll (cs.flatMap escapeChar)).attach ['"']
  | _ => if cs.isEmpty then p.attach [] else p.indicator cs

/-- How far a collection inside another one is indented. -/
def step : Nat := 2

/-- The longest name that stands in front of its colon, in bytes. -/
def maxSimpleKey : Nat := 128

def isSimpleKey (key : String) : Bool :=
  !key.toList.any isBreak && key.utf8ByteSize ≤ maxSimpleKey

/-- The column of a collection inside another one, or of the outermost. -/
def deeper : Option Nat → Nat
  | none => 0
  | some i => i + step

/-- The column of further lines of a scalar. -/
def scalarIndent (indent : Option Nat) : Nat := indent.getD 0 + step

def putString (indent : Option Nat) (s : String) (p : Pen) : Pen :=
  putScalar (scalarIndent indent) (styleOf s.toList) s.toList p

/-- A name and the sign behind it. -/
def putKey (indent : Nat) (key : String) (p : Pen) : Pen :=
  let p := p.goTo indent
  if isSimpleKey key then (putString (some indent) key p).attach [':']
  else ((putString (some indent) key (p.opener '?')).goTo indent).opener ':'

mutual

/-- Writes a document inside a collection at a column; `inMember` tells that a colon precedes. -/
def putNode (indent : Option Nat) (inMember : Bool) : Json → Pen → Pen
  | .null, p => p.indicator "null".toList
  | .bool b, p => p.indicator (if b then "true" else "false").toList
  | .number n, p => p.indicator (n.render .bare).toList
  | .string s, p => putString indent s p
  | .array items, p =>
    if items.isEmpty then p.indicator ['[', ']']
    else
      let column := if inMember && !p.onlyIndented then indent.getD 0 else deeper indent
      putItems column items p
  | .object members, p =>
    if members.isEmpty then p.indicator ['\x7b', '\x7d']
    else putMembers (deeper indent) members p

def putItems (indent : Nat) : List Json → Pen → Pen
  | [], p => p
  | v :: rest, p =>
    putItems indent rest (putNode (some indent) false v ((p.goTo indent).opener '-'))

def putMembers (indent : Nat) : List (String × Json) → Pen → Pen
  | [], p => p
  | (k, v) :: rest, p => putMembers indent rest (putNode (some indent) true v (putKey indent k p))

end

end RequestValidation.Yaml

/-- The document as block-style YAML, ended by a line feed. -/
def RequestValidation.Json.yaml (v : Json) : String :=
  String.ofList ((Yaml.putNode none false v {}).goTo 0).written.reverse
