import RequestValidation.Pattern.Basic
/-!
# Reading patterns

`Pattern.read?` reads the notation of patterns: literals, classes with set operations, groups with
and without names and flags, alternatives, repetitions, assertions and escapes. There are no
references back and no looking around. A text that is no pattern is refused without a reason.

Flags hold from where they are set to the end of their group: `i` ignores case, `m` lets the
anchors match at lines, `s` lets the dot match line feeds, `R` also ends lines at carriage
returns, `U` only changes what repetitions prefer, `u` is on unless it is taken away and widens
classes beyond ASCII, `x` skips blanks and comments.
-/
namespace RequestValidation.Pattern

structure Flags where
  ignoreCase : Bool := false
  multiLine : Bool := false
  dotAll : Bool := false
  anyLineEnd : Bool := false
  unicode : Bool := true
  spaced : Bool := false

/-- The unread text, the flags that hold here, and the names of groups so far. -/
structure Scan where
  rest : List Char
  flags : Flags
  names : List String

namespace Scan

def skipComment : List Char → List Char
  | [] => []
  | c :: rest => if c = '\n' then rest else skipComment rest

/-- Skips blanks and comments, `fuel` runs of them at most. -/
def skipSpaceFrom : Nat → List Char → List Char
  | 0, cs => cs
  | fuel + 1, cs =>
    match cs.dropWhile Text.isBlank with
    | '#' :: rest => skipSpaceFrom fuel (skipComment rest)
    | rest => rest

/-- Skips what does not count when blanks are ignored. -/
def skipSpace (s : Scan) : Scan :=
  if s.flags.spaced then { s with rest := skipSpaceFrom s.rest.length s.rest } else s

/-- Reads on at a later place. -/
def resume (s : Scan) (rest : List Char) : Scan := { s with rest }

/-- Drops one character and what does not count behind it; something must be left. -/
def bump? (s : Scan) : Option Scan :=
  let t := (s.resume (s.rest.drop 1)).skipSpace
  if t.rest.isEmpty then none else some t

end Scan

/-- Characters that mean something in the notation. -/
def isMeta (c : Char) : Bool :=
  "\\.+*?()|[]\x7b\x7d^$#&-~".toList.contains c

/-- Characters that a backslash makes literal: the meaningful ones and other ASCII signs. -/
def isEscapable (c : Char) : Bool :=
  isMeta c || (c.toNat < 128 && !c.isAlphanum && c != '<' && c != '>')

/-- The characters that count where classes are not widened beyond ASCII. -/
def narrowed (f : Flags) (set : CharSet) : CharSet :=
  if f.unicode then set else set.inter (.ranges [(0, 127)])

/-- A single character under the flags. Without `u` only ASCII letters have another case. -/
def literal (f : Flags) (c : Char) : CharSet :=
  let alone := CharSet.single c
  if f.ignoreCase then alone.union (narrowed f alone.folded) else alone

/-- The word characters, digits or white space under the flags. -/
def shorthand (f : Flags) (c : Char) : Option CharSet :=
  if c = 'd' ∨ c = 'D' then
    (if f.unicode then findProperty? categories "nd" else asciiClass? "digit").map
      (CharSet.complIf (c = 'D'))
  else if c = 's' ∨ c = 'S' then
    (if f.unicode then some spaceSet else asciiClass? "space").map (CharSet.complIf (c = 'S'))
  else if c = 'w' ∨ c = 'W' then
    (if f.unicode then some (.ranges wordRanges) else asciiClass? "word").map
      (CharSet.complIf (c = 'W'))
  else none

/-- What a backslash sequence stands for. -/
inductive Escape where
  | char (c : Char)
  | set (s : CharSet)
  | look (l : Look)

def hexDigits? (cs : List Char) : Option Nat :=
  cs.foldlM (fun n c =>
    if c.isDigit then some (16 * n + (c.toNat - 48))
    else if 'a' ≤ c ∧ c ≤ 'f' then some (16 * n + (c.toNat - 87))
    else if 'A' ≤ c ∧ c ≤ 'F' then some (16 * n + (c.toNat - 55))
    else none) 0

/-- The character with a code point, if there is one. -/
def scalar? (n : Nat) : Option Char :=
  if n < 0xD800 ∨ (0xDFFF < n ∧ n < 0x110000) then some (Char.ofNat n) else none

/-- A code point in braces, or in a fixed number of digits. -/
def readCodePoint? (width : Nat) (s : Scan) : Option (Char × Scan) := do
  let s ← s.bump?
  match s.rest with
  | c :: tail =>
    if c = '\x7b' then
      let digits := tail.takeWhile (· != '\x7d')
      let after := tail.dropWhile (· != '\x7d')
      if after.isEmpty then none
      let digits := if s.flags.spaced then digits.filter (!Text.isBlank ·) else digits
      if digits.isEmpty then none
      let c ← scalar? (← hexDigits? digits)
      some (c, s.resume (after.drop 1))
    else
      let digits := s.rest.take width
      if digits.length < width then none
      let c ← scalar? (← hexDigits? digits)
      some (c, s.resume (s.rest.drop width))
  | [] => none

/-- Splits a text at the first place where a word stands. -/
def splitAt? (word : List Char) : List Char → List Char → Option (List Char × List Char)
  | _, [] => none
  | before, c :: rest =>
    if word.isPrefixOf (c :: rest) then some (before.reverse, (c :: rest).drop word.length)
    else splitAt? word (c :: before) rest

/-- A property in braces or by one letter; `cs` starts at the `p`. -/
def readProperty? (s : Scan) : Option (CharSet × Scan) := do
  let negated := s.rest.head? == some 'P'
  let s ← s.bump?
  if !s.flags.unicode then none
  match s.rest with
  | c :: tail =>
    if c = '\x7b' then
      let name := tail.takeWhile (· != '\x7d')
      let after := tail.dropWhile (· != '\x7d')
      if after.isEmpty then none
      let (differs, set?) :=
        match splitAt? ['!', '='] [] name with
        | some (n, v) => (true, propertyValue? (String.ofList n) (String.ofList v))
        | none =>
          match (splitAt? [':'] [] name).or (splitAt? ['='] [] name) with
          | some (n, v) => (false, propertyValue? (String.ofList n) (String.ofList v))
          | none => (false, property? (String.ofList name))
      let set ← set?
      some ((set.foldedIf s.flags.ignoreCase).complIf (negated != differs), s.resume (after.drop 1))
    else if c = '\\' then none
    else
      let set ← property? (String.ofList [c])
      some ((set.foldedIf s.flags.ignoreCase).complIf negated, s.resume tail)
  | [] => none

/-- The special word edges, in braces behind `\b`. -/
def readWordEdge (s : Scan) : Look × Scan :=
  let ascii := !s.flags.unicode
  let table : List (String × Look) := [
    ("\x7bstart\x7d", .wordStart ascii), ("\x7bend\x7d", .wordEnd ascii),
    ("\x7bstart-half\x7d", .wordStartHalf ascii), ("\x7bend-half\x7d", .wordEndHalf ascii)]
  match table.find? fun e => e.1.toList.isPrefixOf s.rest with
  | some (word, edge) => (edge, s.resume (s.rest.drop word.length))
  | none => (.wordEdge ascii, s)

/-- Does a brace with a word in it stand behind `\b`? It has to be the name of an edge. -/
def bracedWord (s : Scan) : Bool :=
  match s.rest with
  | c :: [] => c == '\x7b'
  | c :: d :: _ => c == '\x7b' && (d.isAlpha || d == '-')
  | [] => false

/-- Reads a backslash sequence; `s` starts at the backslash. -/
def readEscape? (s : Scan) : Option (Escape × Scan) := do
  match s.rest with
  | _ :: c :: tail =>
    let here := s.resume (c :: tail)
    let next := s.resume tail
    if c.isDigit then none
    else if c = 'x' ∨ c = 'u' ∨ c = 'U' then
      let (d, t) ← readCodePoint? (if c = 'x' then 2 else if c = 'u' then 4 else 8) here
      let isByte := c == 'x' && tail.head? != some '\x7b'
      if isByte && !s.flags.unicode && 127 < d.toNat then none else some (.char d, t)
    else if c = 'p' ∨ c = 'P' then
      let (set, t) ← readProperty? here
      some (.set set, t)
    else
      match shorthand s.flags c with
      | some set =>
        if !s.flags.unicode && c.isUpper then none else some (.set set, next)
      | none =>
        if isEscapable c then some (.char c, next)
        else if c = 'a' then some (.char (Char.ofNat 7), next)
        else if c = 'f' then some (.char (Char.ofNat 12), next)
        else if c = 't' then some (.char '\t', next)
        else if c = 'n' then some (.char '\n', next)
        else if c = 'r' then some (.char '\r', next)
        else if c = 'v' then some (.char (Char.ofNat 11), next)
        else if c = 'A' then some (.look .textStart, next)
        else if c = 'z' then some (.look .textEnd, next)
        else if c = 'b' then
          let (edge, t) := readWordEdge next
          if edge == .wordEdge (!s.flags.unicode) && bracedWord next then none
          else some (.look edge, t)
        else if c = 'B' then some (.look (.noWordEdge (!s.flags.unicode)), next)
        else if c = '<' then some (.look (.wordStart (!s.flags.unicode)), next)
        else if c = '>' then some (.look (.wordEnd (!s.flags.unicode)), next)
        else none
  | _ => none

/-! ## Classes -/

/-- One item of a class: a character, which may begin a range, or a whole set. -/
def readClassItem? (s : Scan) : Option ((Char ⊕ CharSet) × Scan) :=
  let fits (c : Char) : Bool := s.flags.unicode || c.toNat < 128
  match s.rest with
  | [] => none
  | '\\' :: _ => do
    match ← readEscape? s with
    | (.char c, t) => if fits c then some (.inl c, t) else none
    | (.set set, t) => some (.inr set, t)
    | (.look _, _) => none
  | c :: tail => if fits c then some (.inl c, s.resume tail) else none

/-- An item or a range of a class. -/
def readClassRange? (s : Scan) : Option (CharSet × Scan) := do
  let (item, t) ← readClassItem? s
  let t := t.skipSpace
  let behind := ((t.resume (t.rest.drop 1)).skipSpace).rest.head?
  if t.rest.isEmpty then none
  else if t.rest.head? != some '-' || behind == some ']' || behind == some '-' then
    match item with
    | .inl c => some (.single c, t)
    | .inr set => some (set, t)
  else
    let t ← t.bump?
    let (last, t) ← readClassItem? t
    match item, last with
    | .inl a, .inl b => if a ≤ b then some (.ranges [(a.toNat, b.toNat)], t) else none
    | _, _ => none

/-- A class such as `[:alpha:]`; `s` starts at its bracket. -/
def readAsciiClass? (s : Scan) : Option (CharSet × Scan) :=
  match s.rest with
  | '[' :: ':' :: tail => do
    let negated := tail.head? == some '^'
    let body := if negated then tail.drop 1 else tail
    let name := body.takeWhile (· != ':')
    match body.dropWhile (· != ':') with
    | ':' :: ']' :: after =>
      let set ← asciiClass? (String.ofList name)
      some (set.complIf negated, s.resume after)
    | _ => none
  | _ => none

/-- The hyphens, and a bracket in the first place, with which a class may begin. -/
def readClassStart? : Nat → CharSet → Bool → Scan → Option (CharSet × Scan)
  | 0, _, _, _ => none
  | fuel + 1, set, first, s =>
    match s.rest with
    | '-' :: _ => do readClassStart? fuel (set.union (.single '-')) false (← s.bump?)
    | ']' :: _ => if first then do some (CharSet.single ']', ← s.bump?) else some (set, s)
    | [] => none
    | _ => some (set, s)

inductive SetOperation where
  | inter
  | diff
  | symmDiff
deriving DecidableEq

/-- Joins what stands before an operator with what stands behind it. -/
def combine (fold : Bool) (pending : Option (SetOperation × CharSet)) (set : CharSet) : CharSet :=
  match pending with
  | none => set
  | some (op, left) =>
    let left := left.foldedIf fold
    let right := set.foldedIf fold
    match op with
    | .inter => left.inter right
    | .diff => left.diff right
    | .symmDiff => left.symmDiff right

mutual

/-- A class behind its opening bracket. -/
def readClass? : Nat → Nat → Scan → Option (CharSet × Scan)
  | 0, _, _ => none
  | fuel + 1, depth, s => do
    if depth = 0 then none
    let s ← (s.resume ('[' :: s.rest)).bump?
    let negated := s.rest.head? == some '^'
    let s ← if negated then s.bump? else some s
    let (set, s) ← readClassStart? (s.rest.length + 1) .none true s
    let (set, s) ← readClassBody? fuel depth none set s
    let set := (narrowed s.flags (set.foldedIf s.flags.ignoreCase)).complIf negated
    if !s.flags.unicode && negated then none else some (set, s)

/-- The rest of a class up to its closing bracket. -/
def readClassBody? : Nat → Nat → Option (SetOperation × CharSet) → CharSet → Scan →
    Option (CharSet × Scan)
  | 0, _, _, _, _ => none
  | fuel + 1, depth, pending, set, s => do
    let s := s.skipSpace
    let fold := s.flags.ignoreCase
    let operation (op : SetOperation) (tail : List Char) :=
      readClassBody? fuel depth (some (op, combine fold pending set)) .none (s.resume tail)
    match s.rest with
    | [] => none
    | ']' :: tail => some (combine fold pending set, s.resume tail)
    | '[' :: tail =>
      match readAsciiClass? s with
      | some (ascii, t) => readClassBody? fuel depth pending (set.union ascii) t
      | none =>
        let (inner, t) ← readClass? fuel (depth - 1) (s.resume tail)
        readClassBody? fuel depth pending (set.union inner) t
    | '&' :: '&' :: tail => operation .inter tail
    | '-' :: '-' :: tail => operation .diff tail
    | '~' :: '~' :: tail => operation .symmDiff tail
    | _ =>
      let (item, t) ← readClassRange? s
      readClassBody? fuel depth pending (set.union item) t

end

/-! ## Groups and repetitions -/

/-- The flags before the colon or the parenthesis that ends them, which is the last character
read. -/
def readFlags? (negated : Bool) (seen : List Char) (f : Flags) :
    List Char → Option (Flags × Char × List Char)
  | [] => none
  | c :: rest =>
    if c = ':' ∨ c = ')' then
      if seen.head? = some '-' then none
      else if c = ')' ∧ seen.isEmpty then none
      else some (f, c, rest)
    else if seen.contains c then none
    else if c = '-' then readFlags? true (c :: seen) f rest
    else
      let on := !negated
      let next :=
        if c = 'i' then some { f with ignoreCase := on }
        else if c = 'm' then some { f with multiLine := on }
        else if c = 's' then some { f with dotAll := on }
        else if c = 'R' then some { f with anyLineEnd := on }
        else if c = 'U' then some f
        else if c = 'u' then some { f with unicode := on }
        else if c = 'x' then some { f with spaced := on }
        else none
      match next with
      | none => none
      | some g => readFlags? negated (c :: seen) g rest

def isLetterLike (c : Char) : Bool :=
  if c.toNat < 128 then c.isAlpha
  else (findProperty? flagProperties "alphabetic").any (·.contains c)

def isNumberLike (c : Char) : Bool :=
  if c.toNat < 128 then c.isDigit else (category? "n").any (·.contains c)

/-- The name of a group up to the bracket that closes it. -/
def readGroupName? (names : List String) (cs : List Char) : Option (String × List Char) :=
  let name := cs.takeWhile (· != '>')
  match name, cs.dropWhile (· != '>') with
  | c :: tail, _ :: after =>
    let fine := (c == '_' || isLetterLike c) && tail.all fun d =>
      d == '_' || d == '.' || d == '[' || d == ']' || isLetterLike d || isNumberLike d
    let name := String.ofList name
    if fine && !names.contains name then some (name, after) else none
  | _, _ => none

/-- A count in a repetition, with blanks around it: `none` inside if there are no digits. -/
def readCount? (cs : List Char) : Option (Option Nat × List Char) :=
  let cs := cs.dropWhile Text.isBlank
  let digits := cs.takeWhile Char.isDigit
  let rest := (cs.dropWhile Char.isDigit).dropWhile Text.isBlank
  if digits.isEmpty then some (none, rest)
  else
    let n := digits.foldl (fun n c => 10 * n + (c.toNat - 48)) 0
    if n < Nat.pow 2 32 then some (some n, rest) else none

/-- The bounds of a counted repetition behind its opening brace. -/
def readBounds? (s : Scan) : Option ((Nat × Option Nat) × Scan) := do
  let (least?, rest) ← readCount? s.skipSpace.rest
  match rest with
  | ',' :: tail =>
    let t := (s.resume tail).skipSpace
    let least ← least?
    match t.rest with
    | c :: after =>
      if c = '\x7d' then some ((least, none), s.resume after)
      else
        let (most?, rest) ← readCount? t.rest
        let most ← most?
        match rest with
        | d :: after =>
          if d = '\x7d' ∧ least ≤ most then some ((least, some most), s.resume after) else none
        | [] => none
    | [] => none
  | c :: after =>
    let n ← least?
    if c = '\x7d' then some ((n, some n), s.resume after) else none
  | [] => none

/-- A part of a sequence, and whether it may be repeated. -/
structure Part where
  pattern : Pattern
  repeatable : Bool

/-- A sequence from its parts, the last one first. -/
def sequence (parts : List Part) : Pattern :=
  parts.foldl (fun tail part =>
    match tail with
    | .empty => part.pattern
    | _ => .seq part.pattern tail) .empty

/-- Repeats the last part. -/
def repeatLast? (least : Nat) (most : Option Nat) : List Part → Option (List Part)
  | part :: before =>
    if part.repeatable then some (⟨.repeated part.pattern least most, true⟩ :: before) else none
  | [] => none

/-- A question mark behind a repetition only changes what it prefers. -/
def skipLazy (s : Scan) : Scan :=
  match s.rest with
  | '?' :: tail => s.resume tail
  | _ => s

/-- A literal, the dot, an anchor or an escape. -/
def readPrimitive? (s : Scan) : Option (Pattern × Scan) :=
  match s.rest with
  | [] => none
  | '\\' :: _ => do
    match ← readEscape? s with
    | (.char c, t) => some (.one (literal s.flags c), t)
    | (.set set, t) => some (.one set, t)
    | (.look l, t) => some (.look l, t)
  | '.' :: tail =>
    let lineEnds := if s.flags.anyLineEnd then CharSet.ranges [(10, 10), (13, 13)]
      else CharSet.ranges [(10, 10)]
    if !s.flags.unicode then none
    else some (.one (if s.flags.dotAll then .all else lineEnds.compl), s.resume tail)
  | '^' :: tail =>
    some (.look (if !s.flags.multiLine then .textStart
      else if s.flags.anyLineEnd then .anyLineStart else .lineStart), s.resume tail)
  | '$' :: tail =>
    some (.look (if !s.flags.multiLine then .textEnd
      else if s.flags.anyLineEnd then .anyLineEnd else .lineEnd), s.resume tail)
  | c :: tail => some (.one (literal s.flags c), s.resume tail)

/-- What the opening of a group says: flags for the rest of the group around it, or a group of its
own with the flags inside it. -/
def readOpening? (s : Scan) : Option (Bool × Scan) :=
  match s.skipSpace.rest with
  | '?' :: 'P' :: '<' :: tail => do
    let (name, rest) ← readGroupName? s.names tail
    some (false, { s with rest, names := name :: s.names })
  | '?' :: '<' :: '=' :: _ => none
  | '?' :: '<' :: '!' :: _ => none
  | '?' :: '<' :: tail => do
    let (name, rest) ← readGroupName? s.names tail
    some (false, { s with rest, names := name :: s.names })
  | '?' :: tail => do
    let (flags, last, rest) ← readFlags? false [] s.flags tail
    some (last == ')', { s with rest, flags })
  | rest => some (false, s.resume rest)

/-- Alternatives up to the end of the group or of the text: the branches that are complete and the
parts of the current one, the last first. -/
def readBranches? : Nat → Nat → List Pattern → List Part → Scan → Option (Pattern × Scan)
  | 0, _, _, _, _ => none
  | fuel + 1, depth, done, parts, s => do
    let s := s.skipSpace
    let finish (t : Scan) : Option (Pattern × Scan) :=
      some ((done.foldl (fun p q => .alt q p) (sequence parts)), t)
    match s.rest with
    | [] => finish s
    | ')' :: _ => finish s
    | '|' :: tail => readBranches? fuel depth (sequence parts :: done) [] (s.resume tail)
    | '(' :: tail =>
      let (onlyFlags, t) ← readOpening? (s.resume tail)
      if onlyFlags then readBranches? fuel depth done (⟨.empty, false⟩ :: parts) t
      else if depth = 0 then none
      else
        let (inner, u) ← readBranches? fuel (depth - 1) [] [] t
        match u.rest with
        | ')' :: after =>
          readBranches? fuel depth done (⟨inner, true⟩ :: parts)
            { rest := after, flags := s.flags, names := u.names }
        | _ => none
    | '[' :: tail =>
      let (set, t) ← readClass? (2 * tail.length + 2) depth (s.resume tail)
      readBranches? fuel depth done (⟨.one set, true⟩ :: parts) t
    | '?' :: tail =>
      readBranches? fuel depth done (← repeatLast? 0 (some 1) parts) (skipLazy (s.resume tail))
    | '*' :: tail =>
      readBranches? fuel depth done (← repeatLast? 0 none parts) (skipLazy (s.resume tail))
    | '+' :: tail =>
      readBranches? fuel depth done (← repeatLast? 1 none parts) (skipLazy (s.resume tail))
    | c :: tail =>
      if c = '\x7b' then
        let ((least, most), t) ← readBounds? (s.resume tail)
        readBranches? fuel depth done (← repeatLast? least most parts) (skipLazy t.skipSpace)
      else
        let (p, t) ← readPrimitive? s
        readBranches? fuel depth done (⟨p, true⟩ :: parts) t

/-- Groups and classes may be nested this deep. -/
def nestingLimit : Nat := 250

/-- The pattern that the whole text is, unless it is too large to be searched for. -/
def read? (text : String) : Option Pattern := do
  let cs := text.toList
  let (p, s) ← readBranches? (cs.length + 1) nestingLimit [] [] ⟨cs, {}, []⟩
  if s.rest.isEmpty && p.weight ≤ weightLimit then some p else none

end RequestValidation.Pattern
