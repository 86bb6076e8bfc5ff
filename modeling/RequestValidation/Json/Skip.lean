import RequestValidation.Json.Reader
/-!
# Going over JSON

A value that nobody asked for is only gone over. Its brackets, words and numbers must have the
right form, but a number may be as large as it likes, an escape need not be a character, and
containers may be nested to any depth.
-/
namespace RequestValidation.Json

/-- A string behind its opening quote. -/
def skipString : Nat → Reader Unit
  | 0, _ => .error (Fault.here .endInString [])
  | fuel + 1, cs =>
    match cs with
    | [] => .error (Fault.here .endInString [])
    | '"' :: rest => .ok ((), rest)
    | '\\' :: 'u' :: rest => do
      let (_, after) ← readHex rest
      skipString fuel after
    | '\\' :: rest => do
      let (_, after) ← readEscape rest
      skipString fuel after
    | c :: rest =>
      if c.toNat < 32 then .error (Fault.here .controlCharacter cs) else skipString fuel rest

/-- The exponent of a number behind its `e`. -/
def skipExponent : Reader Unit := fun cs =>
  let (_, unsigned) := splitSign cs
  let (run, rest) := digitRun unsigned
  if run.isEmpty then .error (Fault.next .invalidNumber unsigned) else .ok ((), rest)

/-- What follows the whole part of a number. -/
def skipFraction : Reader Unit := fun cs =>
  match cs with
  | '.' :: tail =>
    let (run, rest) := digitRun tail
    if run.isEmpty then .error (Fault.next .invalidNumber rest)
    else match rest with
      | 'e' :: after => skipExponent after
      | 'E' :: after => skipExponent after
      | _ => .ok ((), rest)
  | 'e' :: after => skipExponent after
  | 'E' :: after => skipExponent after
  | _ => .ok ((), cs)

/-- A number behind its minus sign, if it has one. A leading zero stands alone. -/
def skipNumber : Reader Unit := fun cs =>
  let (run, rest) := digitRun cs
  match run with
  | [] => .error (Fault.next .invalidNumber cs)
  | ['0'] => skipFraction rest
  | '0' :: _ => .error (Fault.next .invalidNumber (cs.drop 1))
  | _ => skipFraction rest

mutual

/-- A value at the front of the text. -/
def skipValue : Nat → Reader Unit
  | 0, _ => .error (Fault.here .endInValue [])
  | fuel + 1, cs =>
    match skipBlanks cs with
    | [] => .error (Fault.here .endInValue [])
    | c :: rest =>
      if c = 'n' then readWord "ull".toList rest
      else if c = 't' then readWord "rue".toList rest
      else if c = 'f' then readWord "alse".toList rest
      else if c = '-' then skipNumber rest
      else if c.isDigit then skipNumber (c :: rest)
      else if c = '"' then skipString (rest.length + 1) rest
      else if c = '[' then skipItems fuel true rest
      else if c = '\x7b' then skipMembers fuel true rest
      else .error (Fault.next .expectedValue (c :: rest))

/-- The items of an array up to its closing bracket. -/
def skipItems : Nat → (first : Bool) → Reader Unit
  | 0, _, _ => .error (Fault.here .endInList [])
  | fuel + 1, first, cs =>
    match skipBlanks cs with
    | [] => .error (Fault.here .endInList [])
    | ']' :: rest => .ok ((), rest)
    | c :: rest =>
      if !first && c ≠ ',' then .error (Fault.next .expectedCommaOrBracket (c :: rest))
      else do
        let (_, after) ← skipValue fuel (if first then c :: rest else rest)
        skipItems fuel false after

/-- The members of an object up to its closing brace. -/
def skipMembers : Nat → (first : Bool) → Reader Unit
  | 0, _, _ => .error (Fault.here .endInObject [])
  | fuel + 1, first, cs =>
    match skipBlanks cs with
    | [] => .error (Fault.here .endInObject [])
    | c :: rest =>
      if c = '\x7d' then .ok ((), rest)
      else if !first && c ≠ ',' then .error (Fault.next .expectedCommaOrBrace (c :: rest))
      else
        match skipBlanks (if first then c :: rest else rest) with
        | [] => .error (Fault.here .endInObject [])
        | '"' :: name => do
          let (_, after) ← skipString (name.length + 1) name
          let (_, after) ← readColon after
          let (_, after) ← skipValue fuel after
          skipMembers fuel false after
        | other => .error (Fault.next .keyNotString other)

end

end RequestValidation.Json
