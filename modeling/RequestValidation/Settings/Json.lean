import RequestValidation.Json.Skip
import RequestValidation.Settings.Shape
/-!
# Settings in JSON

Settings are read off a JSON text value by value, so that the first fault is found at its place: a
value of the wrong type just behind it, or just before its bracket; a repeated field behind its
name, and behind the closing brace if that follows. They are read from a JSON document as well.
-/
namespace RequestValidation.Setting

open Json (Reader Fault skipBlanks)

/-- The fault of a value that is not what was expected. -/
def wrongType (expected : String) (cs : List Char) : Fault :=
  let found (f : Json.Found) (rest : List Char) := Fault.here (.wrongType f expected) rest
  let behind {α : Type} (f : α → Json.Found) : Except Fault (α × List Char) → Fault
    | .ok (a, rest) => found (f a) rest
    | .error e => e
  match cs with
  | [] => Fault.here .endInValue []
  | c :: rest =>
    if c = 'n' then behind (fun _ => .null) (Json.readWord "ull".toList rest)
    else if c = 't' then behind (fun _ => .bool true) (Json.readWord "rue".toList rest)
    else if c = 'f' then behind (fun _ => .bool false) (Json.readWord "alse".toList rest)
    else if c = '-' then behind .number (Json.readNumber true rest)
    else if c.isDigit then behind .number (Json.readNumber false cs)
    else if c = '"' then behind .string (Json.readString rest)
    else if c = '[' then found .sequence cs
    else if c = '\x7b' then found .map cs
    else Fault.next .expectedValue cs

def readText : Reader Setting := fun cs =>
  match skipBlanks cs with
  | '"' :: rest => do
    let (s, after) ← Json.readString rest
    .ok (.text s, after)
  | cs => .error (wrongType Shape.text.expected cs)

def readFlag : Reader Setting := fun cs =>
  match skipBlanks cs with
  | 't' :: rest => do
    let (_, after) ← Json.readWord "rue".toList rest
    .ok (.flag true, after)
  | 'f' :: rest => do
    let (_, after) ← Json.readWord "alse".toList rest
    .ok (.flag false, after)
  | cs => .error (wrongType Shape.flag.expected cs)

/-- `null`, or what another reader reads. -/
def readOptional (read : Reader Setting) : Reader Setting := fun cs =>
  match skipBlanks cs with
  | 'n' :: rest => do
    let (_, after) ← Json.readWord "ull".toList rest
    .ok (.absent, after)
  | cs => read cs

/-- Items up to the closing bracket. -/
def readItems (read : Reader Setting) : Nat → (first : Bool) → Reader (List Setting)
  | 0, _, _ => .error (Fault.here .endInList [])
  | fuel + 1, first, cs => do
    match ← Json.nextItem first cs with
    | none => .ok ([], (skipBlanks cs).drop 1)
    | some here =>
      let (v, after) ← read here
      let (vs, after) ← readItems read fuel false after
      .ok (v :: vs, after)

def readList (read : Reader Setting) (expected : String) : Reader Setting := fun cs =>
  match skipBlanks cs with
  | '[' :: rest => do
    let (vs, after) ← readItems read (rest.length + 1) true rest
    .ok (.list vs, after)
  | cs => .error (wrongType expected cs)

/-- The closing bracket behind the last field of a record. -/
def readClosing : Reader Unit := fun cs =>
  match skipBlanks cs with
  | [] => .error (Fault.here .endInList [])
  | ']' :: rest => .ok ((), rest)
  | ',' :: rest =>
    match skipBlanks rest with
    | ']' :: after => .error (Fault.next .trailingComma (']' :: after))
    | after => .error (Fault.next .trailingCharacters after)
  | cs => .error (Fault.next .trailingCharacters cs)

/-- The fields of a record one after the other. -/
def readInOrder : List (String × Reader Setting) → (first : Bool) → Reader (Members Setting)
  | [], _, cs => do
    let (_, after) ← readClosing cs
    .ok ([], after)
  | (name, read) :: more, first, cs => do
    match ← Json.nextItem first cs with
    | none => .ok ([], (skipBlanks cs).drop 1)
    | some here =>
      let (v, after) ← read here
      let (vs, after) ← readInOrder more false after
      .ok ((name, v) :: vs, after)

/-- The fault of a field whose name was there before, at the text behind the name. -/
def repeated (name : String) (cs : List Char) : Fault :=
  Fault.here (.duplicateField name) (match skipBlanks cs with
    | c :: rest => if c = '\x7d' then rest else c :: rest
    | [] => [])

/-- The fields of a record by name; the rest is passed over. -/
def readByName (fields : List (String × Reader Setting)) :
    Nat → (first : Bool) → Members Setting → Reader (Members Setting)
  | 0, _, _, _ => .error (Fault.here .endInObject [])
  | fuel + 1, first, known, cs => do
    match ← Json.nextName first cs with
    | none => .ok (known, (skipBlanks cs).drop 1)
    | some here =>
      let (name, after) ← Json.readString here
      match fields.lookup name with
      | none =>
        let (_, after) ← Json.readColon after
        let (_, after) ← Json.skipValue (Json.stepsFor after) after
        readByName fields fuel false known after
      | some read =>
        if known.contains name then .error (repeated name after)
        else
          let (_, after) ← Json.readColon after
          let (v, after) ← read after
          readByName fields fuel false (known.insert name v) after

def readRecord (fields : List (String × Reader Setting)) (expected : String) : Reader Setting :=
  fun cs =>
    match skipBlanks cs with
    | [] => .error (wrongType expected [])
    | c :: rest =>
      if c = '[' then do
        let (ms, after) ← readInOrder fields true rest
        .ok (.record ms, after)
      else if c = '\x7b' then do
        let (ms, after) ← readByName fields (rest.length + 1) true [] rest
        .ok (.record ms, after)
      else .error (wrongType expected (c :: rest))

mutual

/-- A setting of some shape at the front of a JSON text. -/
def readJson : Shape → Reader Setting
  | .text => readText
  | .flag => readFlag
  | .optional s => readOptional (readJson s)
  | .list s => readList (readJson s) (Shape.expected (.list s))
  | .record name fields => readRecord (fieldReaders fields) (Shape.expected (.record name fields))

def fieldReaders : List (String × Shape) → List (String × Reader Setting)
  | [] => []
  | (name, s) :: rest => (name, readJson s) :: fieldReaders rest

end

/-- The settings that a whole JSON text spells. -/
def ofJsonText (s : Shape) (text : String) : Except Json.SyntaxError Setting :=
  let cs := text.toList
  match readJson s cs >>= Json.readEnd with
  | .ok v => .ok v
  | .error f => .error (f.located cs)

mutual

/-- A setting of some shape as a JSON document. -/
def ofJson? : Shape → Json → Option Setting
  | .text, v => v.string?.map .text
  | .flag, v => v.bool?.map .flag
  | .optional s, v => if v.isNull then some .absent else ofJson? s v
  | .list s, v =>
    match v with
    | .array items => (items.mapM (ofJson? s)).map .list
    | _ => none
  | .record _ fields, v =>
    match v with
    | .array items =>
      if items.length ≤ fields.length then (inOrder? fields items).map .record else none
    | .object ms => (byName? fields ms).map .record
    | _ => none

/-- The fields of a record from the first one on. -/
def inOrder? : List (String × Shape) → List Json → Option (Members Setting)
  | (name, s) :: more, v :: vs => do
    let w ← ofJson? s v
    some ((name, w) :: (← inOrder? more vs))
  | _, _ => some []

/-- The fields of a record that an object has. -/
def byName? : List (String × Shape) → List (String × Json) → Option (Members Setting)
  | [], _ => some []
  | (name, s) :: more, ms => do
    let rest ← byName? more ms
    match Members.get? ms name with
    | none => some rest
    | some v => some ((name, ← ofJson? s v) :: rest)

end

end RequestValidation.Setting
