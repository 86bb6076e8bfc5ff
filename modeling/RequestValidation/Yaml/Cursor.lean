import RequestValidation.Yaml.Scalar
/-!
# Places in a YAML text

A cursor is a place in a text that is being read: what is still unread, how many characters have
been read, the line and the column. A carriage return with a line feed is one break; a break is
read as a line feed, unless it is a separator of lines or paragraphs, which stays.
-/
namespace RequestValidation.Yaml

structure Cursor where
  rest : List Char
  index : Nat := 0
  line : Nat := 0
  column : Nat := 0

namespace Cursor

/-- The place behind the next character of the line. -/
def skip (c : Cursor) : Cursor :=
  { c with rest := c.rest.drop 1, index := c.index + 1, column := c.column + 1 }

def skipMany (n : Nat) (c : Cursor) : Cursor :=
  { c with rest := c.rest.drop n, index := c.index + n, column := c.column + n }

/-- The place behind all characters of a class, which holds no break. -/
def skipWhile (p : Char → Bool) (c : Cursor) : Cursor := c.skipMany (c.rest.takeWhile p).length

/-- The place behind a break. -/
def skipBreak (c : Cursor) : Cursor :=
  let n := match c.rest with
    | '\r' :: '\n' :: _ => 2
    | _ => 1
  ⟨c.rest.drop n, c.index + n, c.line + 1, 0⟩

/-- What a break is read as. -/
def breakChar (c : Char) : Char := if c.toNat = 0x2028 || c.toNat = 0x2029 then c else '\n'

/-- The next character. -/
def peek? (c : Cursor) : Option Char := c.rest.head?

def atBreak (c : Cursor) : Bool := c.peek?.any isBreak

/-- At the end of the text or of a line? -/
def atLineEnd (c : Cursor) : Bool := c.peek?.all isBreak

/-- Does a blank or a break follow, or the end of the text, so many characters further on? -/
def endsWordAfter (n : Nat) (c : Cursor) : Bool := c.rest[n]?.all isBlankOrBreak

/-- Three signs at the beginning of a line, and nothing more of that word. -/
def atMarker (c : Cursor) (sign : Char) : Bool :=
  c.column == 0 && [sign, sign, sign].isPrefixOf c.rest && c.endsWordAfter 3

/-- Does a document begin or end here? -/
def atDocumentMarker (c : Cursor) : Bool := c.atMarker '-' || c.atMarker '.'

/-- The rest of the line. -/
def skipComment (c : Cursor) : Cursor :=
  if c.peek? = some '#' then c.skipWhile (!isBreak ·) else c

end Cursor

/-- White space within a scalar: blanks up to the first break, and the breaks. -/
structure Gap where
  blanks : List Char := []
  breaks : List Char := []

namespace Gap

def isEmpty (g : Gap) : Bool := g.blanks.isEmpty && g.breaks.isEmpty

/-- The gap as text: blanks within a line stay, a line end becomes a blank, and of several line
ends the first is left out. -/
def folded (g : Gap) : List Char :=
  match g.breaks with
  | [] => g.blanks
  | '\n' :: [] => [' ']
  | '\n' :: more => more
  | breaks => breaks

/-- As many steps as the white space at a place needs. -/
def steps (c : Cursor) : Nat := (c.rest.takeWhile isBlankOrBreak).length

/-- Reads a gap. Behind a break a tab must not stand before column `indent`. -/
def read? (indent : Nat) : Nat → Gap → Cursor → Option (Gap × Cursor)
  | 0, g, c => some (g, c)
  | fuel + 1, g, c =>
    match c.peek? with
    | none => some (g, c)
    | some ch =>
      if isBreak ch then
        read? indent fuel { g with breaks := g.breaks ++ [Cursor.breakChar ch] } c.skipBreak
      else if isBlank ch then
        if g.breaks.isEmpty then read? indent fuel { g with blanks := g.blanks ++ [ch] } c.skip
        else if ch = '\t' && c.column < indent then none
        else read? indent fuel g c.skip
      else some (g, c)

end Gap

end RequestValidation.Yaml
