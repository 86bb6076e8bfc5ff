import RequestValidation.Yaml.Cursor
/-!
# Reading scalars

The text of a scalar behind its first sign. Between quotes and in plain text lines are folded; a
plain scalar ends at an indicator or at a line that is not indented enough. A literal or folded
block consists of the lines that are indented as far as its first one; its header says what
becomes of the breaks at its end.
-/
namespace RequestValidation.Yaml

/-- The character of an escape of one letter. -/
def escapeValue? (c : Char) : Option Nat :=
  [('0', 0), ('a', 7), ('b', 8), ('t', 9), ('\t', 9), ('n', 10), ('v', 11), ('f', 12), ('r', 13),
    ('e', 27), (' ', 32), ('"', 34), ('/', 47), ('\\', 92), ('N', 0x85), ('_', 0xA0),
    ('L', 0x2028), ('P', 0x2029)].lookup c

/-- How many hexadecimal digits follow a letter. -/
def escapeLength? (c : Char) : Option Nat := [('x', 2), ('u', 4), ('U', 8)].lookup c

/-- A character by its code point. -/
def scalarChar? (n : Nat) : Option Char :=
  if (0xD800 ≤ n ∧ n ≤ 0xDFFF) ∨ 0x10FFFF < n then none else some (Char.ofNat n)

/-- What stands behind a backslash, unless that is a break. -/
def readEscape? (c : Cursor) : Option (Char × Cursor) := do
  let letter ← c.peek?
  match escapeValue? letter with
  | some n => some (Char.ofNat n, c.skip)
  | none =>
    let length ← escapeLength? letter
    let digits := c.skip.rest.take length
    if digits.length = length then
      some (← scalarChar? (← natInRadix? 16 digits), c.skip.skipMany length)
    else none

/-- Text up to the quote that closes it; `text` is what has been read, last character first. -/
def readQuoted? (quote : Char) : Nat → List Char → Cursor → Option (List Char × Cursor)
  | 0, _, _ => none
  | fuel + 1, text, c => do
    let ch ← c.peek?
    if c.atDocumentMarker then none
    else if isBlankOrBreak ch then
      let (gap, c) ← Gap.read? 0 (Gap.steps c) {} c
      readQuoted? quote fuel (gap.folded.reverse ++ text) c
    else if ch = quote then
      if quote = '\'' && c.skip.peek? = some '\'' then
        readQuoted? quote fuel ('\'' :: text) (c.skipMany 2)
      else some (text.reverse, c.skip)
    else if quote = '"' && ch = '\\' then
      if c.skip.atBreak then
        let next := c.skip.skipBreak
        let (gap, c) ← Gap.read? 0 (Gap.steps next) {} next
        readQuoted? quote fuel (gap.breaks.reverse ++ text) c
      else
        let (e, c) ← readEscape? c.skip
        readQuoted? quote fuel (e :: text) c
    else readQuoted? quote fuel (ch :: text) c.skip

/-- The brackets and the comma. -/
def isFlowIndicator (c : Char) : Bool := ",[]\x7b\x7d".toList.contains c

/-- A scalar as it was read. -/
structure PlainText where
  text : List Char
  /-- Did its reading go on to another line? -/
  endsLine : Bool
  behind : Cursor

/-- Plain text that ends behind a gap. -/
def PlainText.done (gap : Gap) (text : List Char) (c : Cursor) : PlainText :=
  ⟨text.reverse, !gap.breaks.isEmpty, c⟩

/-- Plain text from a place on; `gap` is the white space before it. -/
def readPlain? (flow : Bool) (indent : Nat) : Nat → Gap → List Char → Cursor → Option PlainText
  | 0, _, _, _ => none
  | fuel + 1, gap, text, c =>
    match c.peek? with
    | none => some (.done gap text c)
    | some ch =>
      if isBlankOrBreak ch then do
        let (gap, c) ← Gap.read? indent (Gap.steps c) {} c
        if !flow && c.column < indent then some (.done gap text c)
        else readPlain? flow indent fuel gap text c
      else if !gap.isEmpty && (c.atDocumentMarker || ch = '#') then some (.done gap text c)
      else if flow && ch = ':' && c.skip.peek?.any (fun d => isFlowIndicator d || d = '?') then none
      else if (ch = ':' && c.endsWordAfter 1) || (flow && isFlowIndicator ch) then
        some (.done gap text c)
      else readPlain? flow indent fuel {} (ch :: gap.folded.reverse ++ text) c.skip

/-- What becomes of the breaks at the end of a block. -/
inductive Chomping where
  | strip
  | clip
  | keep
deriving DecidableEq, Repr

/-- A sign of the header of a block. -/
def chomping? : Option Char → Option Chomping
  | some '+' => some .keep
  | some '-' => some .strip
  | _ => none

/-- A digit of the header of a block: the indentation, which is not zero. -/
def increment? (c : Option Char) : Option Nat :=
  match c with
  | some d => if '1' ≤ d ∧ d ≤ '9' then some (d.toNat - '0'.toNat) else none
  | none => none

/-- The header of a block: sign and digit in either order, and nothing else but a comment. -/
def readHeader? (c : Cursor) : Option ((Chomping × Option Nat) × Cursor) :=
  let (chomping, afterSign) := match chomping? c.peek? with
    | some k => (some k, c.skip)
    | none => (none, c)
  let (increment, afterDigit) := match increment? afterSign.peek? with
    | some n => (some n, afterSign.skip)
    | none => (none, afterSign)
  let (chomping, behind) := match chomping, chomping? afterDigit.peek? with
    | none, some k => (some k, afterDigit.skip)
    | k, _ => (k, afterDigit)
  let atEnd := (behind.skipWhile isBlank).skipComment
  if atEnd.atLineEnd then
    some ((chomping.getD .clip, increment), if atEnd.atBreak then atEnd.skipBreak else atEnd)
  else none

/-- Empty lines and the indentation of the next line. The indentation is not limited if it is not
known; `deepest` is the deepest one so far. -/
def readEmptyLines? (indent : Option Nat) :
    Nat → Nat → List Char → Cursor → Option (Nat × List Char × Cursor)
  | 0, deepest, breaks, c => some (deepest, breaks, c)
  | fuel + 1, deepest, breaks, c =>
    let blanks := (c.rest.takeWhile (· = ' ')).length
    let c := c.skipMany (match indent with
      | some n => min blanks (n - c.column)
      | none => blanks)
    let deepest := max deepest c.column
    if indent.all (c.column < ·) && c.peek? = some '\t' then none
    else match c.peek? with
      | some ch =>
        if isBreak ch then
          readEmptyLines? indent fuel deepest (breaks ++ [Cursor.breakChar ch]) c.skipBreak
        else some (deepest, breaks, c)
      | none => some (deepest, breaks, c)

/-- The breaks between two lines of a folded block, the first of which is `first`. -/
def foldedBreaks (first : Option Char) (more : List Char) (blankBefore blankBehind : Bool) :
    List Char :=
  if first = some '\n' && !blankBefore && !blankBehind then if more.isEmpty then [' '] else more
  else first.toList ++ more

/-- The lines of a block that is indented by `indent`. `first` and `more` are the breaks in front
of the line, `blank` tells whether the line before begins with a blank. -/
def readLines? (literal : Bool) (chomping : Chomping) (indent : Nat) :
    Nat → Option Char → List Char → Bool → List Char → Cursor → Option (List Char × Cursor)
  | 0, _, _, _, _, _ => none
  | fuel + 1, first, more, blank, text, c =>
    if c.column = indent && !c.rest.isEmpty then do
      let blankBehind := c.peek?.any isBlank
      let between :=
        if literal then first.toList ++ more else foldedBreaks first more blank blankBehind
      let line := c.rest.takeWhile (!isBreak ·)
      let c := c.skipMany line.length
      let first := c.peek?.map Cursor.breakChar
      let c := if c.atBreak then c.skipBreak else c
      let (_, more, c) ← readEmptyLines? (some indent) fuel 0 [] c
      readLines? literal chomping indent fuel first more blankBehind
        (line.reverse ++ between.reverse ++ text) c
    else
      let tail := match chomping with
        | .strip => []
        | .clip => first.toList
        | .keep => first.toList ++ more
      some (text.reverse ++ tail, c)

/-- A block behind its sign, inside a collection at column `parent`. -/
def readBlock? (literal : Bool) (parent : Option Nat) (c : Cursor) :
    Option (List Char × Cursor) := do
  let ((chomping, increment), c) ← readHeader? c
  let known := increment.map (parent.getD 0 + ·)
  let (deepest, breaks, c) ← readEmptyLines? known c.rest.length 0 [] c
  let indent := known.getD (max deepest (max ((parent.map (· + 1)).getD 0) 1))
  readLines? literal chomping indent (c.rest.length + 1) none breaks false [] c

end RequestValidation.Yaml
