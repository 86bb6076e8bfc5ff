import RequestValidation.Decimal.Numeral
import RequestValidation.Json.Fault
/-!
# Reading JSON

`Json.read` reads a whole text as one document and refuses everything else, naming the first
fault and its place. Containers may be nested 127 deep. A repeated name in an object keeps its
first place and takes its last value.

A number without fraction and exponent is an integer if it fits 64 bits (signed when it has a
minus, unsigned when it has none); minus zero and every other number are binary64 numbers, and a
number too large for that is a fault.

The readers pass on the text that they have not used. Their recursion is bounded by a count of
steps, and the length of the text is always enough of them.
-/
namespace RequestValidation.Json

/-- What a reader made of the front of a text, and the rest of the text. -/
abbrev Reader (α : Type) := List Char → Except Fault (α × List Char)

/-- White space of JSON. -/
def isSpace (c : Char) : Bool := c = ' ' || c = '\n' || c = '\t' || c = '\r'

def skipBlanks (cs : List Char) : List Char := cs.dropWhile isSpace

/-- The value of a hexadecimal digit. -/
def hexValue? (c : Char) : Option Nat :=
  if '0' ≤ c ∧ c ≤ '9' then some (c.toNat - '0'.toNat)
  else if 'a' ≤ c ∧ c ≤ 'f' then some (c.toNat - 'a'.toNat + 10)
  else if 'A' ≤ c ∧ c ≤ 'F' then some (c.toNat - 'A'.toNat + 10)
  else none

/-- Four hexadecimal digits. Four bytes that are something else count as looked at. -/
def readHex : Reader Nat := fun cs =>
  if byteCount cs < 4 then .error (Fault.here .endInString [])
  else match cs with
    | a :: b :: c :: d :: rest =>
      match hexValue? a, hexValue? b, hexValue? c, hexValue? d with
      | some a, some b, some c, some d => .ok (((a * 16 + b) * 16 + c) * 16 + d, rest)
      | _, _, _, _ => .error ⟨.invalidEscape, cs, 4⟩
    | _ => .error ⟨.invalidEscape, cs, 4⟩

/-- The second half of a surrogate pair, whose first half was `high`. -/
def readLowSurrogate (high : Nat) : Reader Char := fun cs =>
  match cs with
  | [] => .error (Fault.here .endInString [])
  | '\\' :: [] => .error (Fault.here .endInString [])
  | '\\' :: 'u' :: rest => do
    let (low, after) ← readHex rest
    if low < 0xDC00 ∨ 0xDFFF < low then .error (Fault.here .loneSurrogate after)
    else
      .ok (Char.ofNat (0x10000 + (high - 0xD800) * 1024 + (low - 0xDC00)), after)
  | '\\' :: rest => .error (Fault.next .unfinishedSurrogatePair rest)
  | _ => .error (Fault.next .unfinishedSurrogatePair cs)

/-- What stands behind a backslash. -/
def readEscape : Reader Char := fun cs =>
  match cs with
  | [] => .error (Fault.here .endInString [])
  | '"' :: rest => .ok ('"', rest)
  | '\\' :: rest => .ok ('\\', rest)
  | '/' :: rest => .ok ('/', rest)
  | 'b' :: rest => .ok (Char.ofNat 8, rest)
  | 'f' :: rest => .ok (Char.ofNat 12, rest)
  | 'n' :: rest => .ok ('\n', rest)
  | 'r' :: rest => .ok ('\r', rest)
  | 't' :: rest => .ok ('\t', rest)
  | 'u' :: rest => do
    let (n, after) ← readHex rest
    if 0xDC00 ≤ n ∧ n ≤ 0xDFFF then .error (Fault.here .loneSurrogate after)
    else if 0xD800 ≤ n ∧ n ≤ 0xDBFF then readLowSurrogate n after
    else .ok (Char.ofNat n, after)
  | _ => .error (Fault.next .invalidEscape cs)

/-- The characters up to the closing quote. -/
def readStringBody : Nat → Reader (List Char)
  | 0, _ => .error (Fault.here .endInString [])
  | fuel + 1, cs =>
    match cs with
    | [] => .error (Fault.here .endInString [])
    | '"' :: rest => .ok ([], rest)
    | '\\' :: rest => do
      let (c, after) ← readEscape rest
      let (tail, after) ← readStringBody fuel after
      .ok (c :: tail, after)
    | c :: rest =>
      if c.toNat < 32 then .error (Fault.here .controlCharacter rest)
      else do
        let (tail, after) ← readStringBody fuel rest
        .ok (c :: tail, after)

/-- A string literal behind its opening quote. -/
def readString : Reader String := fun cs => do
  let (body, after) ← readStringBody (cs.length + 1) cs
  .ok (String.ofList body, after)

/-- The rest of a word of which the first letter has been seen. -/
def readWord : List Char → Reader Unit
  | [], cs => .ok ((), cs)
  | _ :: _, [] => .error (Fault.here .endInValue [])
  | w :: word, c :: rest =>
    if c = w then readWord word rest else .error (Fault.next .expectedWord (c :: rest))

/-- The largest exponent that is still read digit by digit. -/
def maxExponent : Nat := Nat.pow 2 31 - 1

/-- The rest of the digits behind the first at which the exponent passes `maxExponent`. -/
def afterExponentOverflow : Nat → List Char → Option (List Char)
  | _, [] => none
  | n, c :: rest =>
    if c.isDigit then
      let m := 10 * n + (c.toNat - '0'.toNat)
      if maxExponent < m then some rest else afterExponentOverflow m rest
    else none

/-- The binary64 number of a numeral; one that is too large is a fault behind the numeral. -/
def floatOf (negative : Bool) (digits : Nat) (exponent : Int) : Reader Number := fun rest =>
  match Extended64.ofDecimal negative digits exponent with
  | .finite x => .ok (.float x, rest)
  | _ => .error (Fault.here .numberOutOfRange rest)

/-- The exponent of a number behind its `e`, after digits with so many of them behind the point. -/
def readExponentOf (negative : Bool) (digits : List Char) (scale : Nat) : Reader Number := fun cs =>
  let (below, unsigned) := splitSign cs
  match unsigned with
  | [] => .error (Fault.here .endInValue [])
  | c :: _ =>
    if !c.isDigit then .error (Fault.next .invalidNumber unsigned)
    else
      let (run, rest) := digitRun unsigned
      let mantissa := natOfDigits digits
      match afterExponentOverflow 0 unsigned with
      | some unread =>
        if mantissa ≠ 0 ∧ !below then .error (Fault.here .numberOutOfRange unread)
        else .ok (.float ⟨negative, 0⟩, rest)
      | none =>
        let e : Int := if below then -(natOfDigits run : Int) else natOfDigits run
        floatOf negative mantissa (e - scale) rest

/-- An integer if it fits 64 bits, otherwise a binary64 number. -/
def wholeNumber (negative : Bool) (n : Nat) : Reader Number := fun rest =>
  if negative then
    if n ≠ 0 ∧ n ≤ Nat.pow 2 63 then .ok (.int (-(n : Int)), rest) else floatOf true n 0 rest
  else if n < Nat.pow 2 64 then .ok (.int n, rest)
  else floatOf false n 0 rest

/-- What follows the whole part of a number. -/
def readFraction (negative : Bool) (whole : List Char) : Reader Number := fun cs =>
  match cs with
  | '.' :: tail =>
    let (fraction, rest) := digitRun tail
    if fraction.isEmpty then
      .error (match rest with
        | [] => Fault.here .endInValue []
        | _ => Fault.next .invalidNumber rest)
    else match rest with
      | 'e' :: after => readExponentOf negative (whole ++ fraction) fraction.length after
      | 'E' :: after => readExponentOf negative (whole ++ fraction) fraction.length after
      | _ => floatOf negative (natOfDigits (whole ++ fraction)) (-(fraction.length : Int)) rest
  | 'e' :: after => readExponentOf negative whole 0 after
  | 'E' :: after => readExponentOf negative whole 0 after
  | _ => wholeNumber negative (natOfDigits whole) cs

/-- A number behind its minus sign, if it has one. -/
def readNumber (negative : Bool) : Reader Number := fun cs =>
  match cs with
  | [] => .error (Fault.here .endInValue [])
  | c :: rest =>
    if !c.isDigit then .error (Fault.next .invalidNumber cs)
    else if c = '0' then
      match rest with
      | d :: _ =>
        if d.isDigit then .error (Fault.next .invalidNumber rest)
        else readFraction negative ['0'] rest
      | [] => readFraction negative ['0'] rest
    else
      let (whole, after) := digitRun cs
      readFraction negative whole after

/-- The colon between a name and its value. -/
def readColon : Reader Unit := fun cs =>
  match skipBlanks cs with
  | [] => .error (Fault.here .endInObject [])
  | ':' :: rest => .ok ((), rest)
  | cs => .error (Fault.next .expectedColon cs)

/-- Goes to the next item of a list, if there is one; the closing bracket is left unread. -/
def nextItem (first : Bool) (cs : List Char) : Except Fault (Option (List Char)) :=
  match skipBlanks cs with
  | [] => .error (Fault.here .endInList [])
  | ']' :: _ => .ok none
  | c :: rest =>
    if first then .ok (some (c :: rest))
    else if c = ',' then
      match skipBlanks rest with
      | [] => .error (Fault.here .endInValue [])
      | ']' :: after => .error (Fault.next .trailingComma (']' :: after))
      | after => .ok (some after)
    else .error (Fault.next .expectedCommaOrBracket (c :: rest))

/-- Goes behind the opening quote of the next name of an object, if there is one; the closing
brace is left unread. -/
def nextName (first : Bool) (cs : List Char) : Except Fault (Option (List Char)) :=
  match skipBlanks cs with
  | [] => .error (Fault.here .endInObject [])
  | c :: rest =>
    if c = '\x7d' then .ok none
    else if first then
      if c = '"' then .ok (some rest) else .error (Fault.next .keyNotString (c :: rest))
    else if c = ',' then
      match skipBlanks rest with
      | [] => .error (Fault.here .endInValue [])
      | d :: after =>
        if d = '"' then .ok (some after)
        else if d = '\x7d' then .error (Fault.next .trailingComma (d :: after))
        else .error (Fault.next .keyNotString (d :: after))
    else .error (Fault.next .expectedCommaOrBrace (c :: rest))

mutual

/-- A document at the front of the text; `depth` containers may still be opened, the last of them
not included. -/
def readValue : Nat → Nat → Reader Json
  | 0, _, _ => .error (Fault.here .endInValue [])
  | fuel + 1, depth, cs =>
    match skipBlanks cs with
    | [] => .error (Fault.here .endInValue [])
    | c :: rest =>
      if c = 'n' then do
        let (_, after) ← readWord "ull".toList rest
        .ok (.null, after)
      else if c = 't' then do
        let (_, after) ← readWord "rue".toList rest
        .ok (.bool true, after)
      else if c = 'f' then do
        let (_, after) ← readWord "alse".toList rest
        .ok (.bool false, after)
      else if c = '-' then do
        let (n, after) ← readNumber true rest
        .ok (.number n, after)
      else if c.isDigit then do
        let (n, after) ← readNumber false (c :: rest)
        .ok (.number n, after)
      else if c = '"' then do
        let (s, after) ← readString rest
        .ok (.string s, after)
      else if c = '[' then
        if depth ≤ 1 then .error (Fault.next .nestedTooDeeply (c :: rest))
        else do
          let (items, after) ← readItems fuel (depth - 1) true rest
          .ok (.array items, after)
      else if c = '\x7b' then
        if depth ≤ 1 then .error (Fault.next .nestedTooDeeply (c :: rest))
        else do
          let (pairs, after) ← readMembers fuel (depth - 1) true rest
          .ok (.object (Members.ofPairs pairs), after)
      else .error (Fault.next .expectedValue (c :: rest))

/-- The items of an array up to its closing bracket. -/
def readItems : Nat → Nat → Bool → Reader (List Json)
  | 0, _, _, _ => .error (Fault.here .endInList [])
  | fuel + 1, depth, first, cs => do
    match ← nextItem first cs with
    | none => .ok ([], (skipBlanks cs).drop 1)
    | some here =>
      let (v, after) ← readValue fuel depth here
      let (vs, after) ← readItems fuel depth false after
      .ok (v :: vs, after)

/-- The members of an object up to its closing brace, repeated names included. -/
def readMembers : Nat → Nat → Bool → Reader (List (String × Json))
  | 0, _, _, _ => .error (Fault.here .endInObject [])
  | fuel + 1, depth, first, cs => do
    match ← nextName first cs with
    | none => .ok ([], (skipBlanks cs).drop 1)
    | some here =>
      let (key, after) ← readString here
      let (_, after) ← readColon after
      let (v, after) ← readValue fuel depth after
      let (rest, after) ← readMembers fuel depth false after
      .ok ((key, v) :: rest, after)

end

/-- Nothing but blanks may follow. -/
def readEnd {α : Type} (result : α × List Char) : Except Fault α :=
  match skipBlanks result.2 with
  | [] => .ok result.1
  | cs => .error (Fault.next .trailingCharacters cs)

/-- Steps that suffice for a text: a container takes two and at least one character, every other
item one and at least one character. -/
def stepsFor (cs : List Char) : Nat := 2 * cs.length + 2

/-- One more than the number of containers that may be nested. -/
def depthLimit : Nat := 128

/-- The document that the whole text is, with less than `depth` containers nested. -/
def readNested (depth : Nat) (text : String) : Except SyntaxError Json :=
  let cs := text.toList
  match readValue (stepsFor cs) depth cs >>= readEnd with
  | .ok v => .ok v
  | .error f => .error (f.located cs)

/-- The document that the whole text is; mirrors `from_str`. -/
def read (text : String) : Except SyntaxError Json := readNested depthLimit text

end RequestValidation.Json
