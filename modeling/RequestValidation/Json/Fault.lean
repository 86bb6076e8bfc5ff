import RequestValidation.Json.Basic
import RequestValidation.Text.Quoted
/-!
# Faults of a JSON text

A reader that gives up names the cause and how much of the text was still unread. The position is
worked out from that afterwards: lines count from one, and a column is the number of bytes behind
the last line feed, so one behind a fault that was seen without being read and just behind one
that was read.
-/
namespace RequestValidation.Json

/-- The shape of a value where another one was expected. -/
inductive Found where
  | null
  | bool (b : Bool)
  | number (n : Number)
  | string (s : String)
  | sequence
  | map
deriving DecidableEq, Repr

/-- The shape of a document. -/
def Found.of : Json → Found
  | .null => .null
  | .bool b => .bool b
  | .number n => .number n
  | .string s => .string s
  | .array _ => .sequence
  | .object _ => .map

def Found.text : Found → String
  | .null => "null"
  | .bool b => "boolean `" ++ (if b then "true" else "false") ++ "`"
  | .number (.int i) => "integer `" ++ toString i ++ "`"
  | .number (.float x) => "floating point `" ++ x.render .signed ++ "`"
  | .string s => "string " ++ Text.quoted s
  | .sequence => "sequence"
  | .map => "map"

/-- Why a text is not the document that was asked for. -/
inductive Cause where
  | endInList
  | endInObject
  | endInString
  | endInValue
  | expectedColon
  | expectedCommaOrBracket
  | expectedCommaOrBrace
  | expectedWord
  | expectedValue
  | invalidEscape
  | invalidNumber
  | numberOutOfRange
  | controlCharacter
  | keyNotString
  | loneSurrogate
  | unfinishedSurrogatePair
  | trailingComma
  | trailingCharacters
  | nestedTooDeeply
  | wrongType (found : Found) (expected : String)
  | duplicateField (name : String)
deriving DecidableEq, Repr

def Cause.text : Cause → String
  | .endInList => "EOF while parsing a list"
  | .endInObject => "EOF while parsing an object"
  | .endInString => "EOF while parsing a string"
  | .endInValue => "EOF while parsing a value"
  | .expectedColon => "expected `:`"
  | .expectedCommaOrBracket => "expected `,` or `]`"
  | .expectedCommaOrBrace => "expected `,` or `\x7d`"
  | .expectedWord => "expected ident"
  | .expectedValue => "expected value"
  | .invalidEscape => "invalid escape"
  | .invalidNumber => "invalid number"
  | .numberOutOfRange => "number out of range"
  | .controlCharacter => "control character (\\u0000-\\u001F) found while parsing a string"
  | .keyNotString => "key must be a string"
  | .loneSurrogate => "lone leading surrogate in hex escape"
  | .unfinishedSurrogatePair => "unexpected end of hex escape"
  | .trailingComma => "trailing comma"
  | .trailingCharacters => "trailing characters"
  | .nestedTooDeeply => "recursion limit exceeded"
  | .wrongType found expected => "invalid type: " ++ found.text ++ ", expected " ++ expected
  | .duplicateField name => "duplicate field `" ++ name ++ "`"

/-- A cause, the text that was unread, and how many bytes of that count as looked at. -/
structure Fault where
  cause : Cause
  unread : List Char
  lookedAt : Nat
deriving Repr

/-- A fault at the unread text, none of which was looked at. -/
def Fault.here (cause : Cause) (unread : List Char) : Fault := ⟨cause, unread, 0⟩

/-- A fault in the next byte; at the end of the text there is none. -/
def Fault.next (cause : Cause) (unread : List Char) : Fault :=
  ⟨cause, unread, if unread.isEmpty then 0 else 1⟩

/-- A place in a text. -/
structure Position where
  line : Nat
  column : Nat
deriving DecidableEq, Repr

/-- The place a number of bytes further on. -/
def Position.advance : Position → Nat → List Char → Position
  | p, _, [] => p
  | p, n, c :: rest =>
    if n = 0 then p
    else if n < c.utf8Size then ⟨p.line, p.column + n⟩
    else
      let q : Position := if c = '\n' then ⟨p.line + 1, 0⟩ else ⟨p.line, p.column + c.utf8Size⟩
      q.advance (n - c.utf8Size) rest

/-- The number of bytes that a text takes. -/
def byteCount (cs : List Char) : Nat := cs.foldl (fun n c => n + c.utf8Size) 0

/-- Where in the text the fault lies. -/
def Fault.position (text : List Char) (f : Fault) : Position :=
  Position.advance ⟨1, 0⟩ (byteCount text - byteCount f.unread + f.lookedAt) text

/-- The cause with its place. -/
structure SyntaxError where
  cause : Cause
  position : Position
deriving DecidableEq, Repr

def SyntaxError.text (e : SyntaxError) : String :=
  e.cause.text ++ " at line " ++ toString e.position.line ++ " column " ++
    toString e.position.column

def Fault.located (text : List Char) (f : Fault) : SyntaxError :=
  ⟨f.cause, f.position text⟩

end RequestValidation.Json
