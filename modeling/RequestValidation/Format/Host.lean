import RequestValidation.Decimal.Numeral
import RequestValidation.Pattern.CharSet
import RequestValidation.Text.Case
/-!
# Hosts

The hosts of URLs: names, IPv4 addresses with one to four numbers in base 8, 10 or 16, IPv6
addresses in brackets, and the opaque hosts of schemes that are not special. A name is first
undone of its percent escapes, read as UTF-8 and mapped to small letters; a name whose last label
is a number has to be an IPv4 address.

Names beyond ASCII are checked by the classes of their characters, not by the whole of the rules
for international names.
-/
namespace RequestValidation.Format

def hexDigitValue? (c : Char) : Option Nat :=
  if c.isDigit then some (c.toNat - 48)
  else if 'a' ≤ c ∧ c ≤ 'f' then some (c.toNat - 87)
  else if 'A' ≤ c ∧ c ≤ 'F' then some (c.toNat - 55)
  else none

/-- The bytes of a text in which percent escapes stand for bytes. -/
def percentDecode : List Char → List UInt8
  | [] => []
  | '%' :: a :: b :: rest =>
    match hexDigitValue? a, hexDigitValue? b with
    | some x, some y => UInt8.ofNat (16 * x + y) :: percentDecode rest
    | _, _ => '%'.toUInt8 :: percentDecode (a :: b :: rest)
  | c :: rest => (String.singleton c).toUTF8.toList ++ percentDecode rest

/-- The text that bytes encode, if they are UTF-8. -/
def decodeUtf8? (bytes : List UInt8) : Option (List Char) :=
  (String.fromUTF8? ⟨bytes.toArray⟩).map String.toList

/-! ## IPv4 -/

/-- A part of an IPv4 address: `none` if it is no number, `some none` if it is too large. -/
def ipv4Number? (part : List Char) : Option (Option Nat) :=
  if part.isEmpty then none
  else
    let (base, digits) : Nat × List Char :=
      match part with
      | '0' :: 'x' :: rest => (16, rest)
      | '0' :: 'X' :: rest => (16, rest)
      | '0' :: d :: rest => (8, d :: rest)
      | _ => (10, part)
    let value? := digits.foldlM (fun n c =>
      match hexDigitValue? c with
      | some d => if d < base then some (n * base + d) else none
      | none => none) 0
    value?.map fun n => if n < Nat.pow 2 32 then some n else none

/-- Is the last label, a final empty one aside, a number? -/
def endsInNumber (name : List Char) : Bool :=
  match (name.splitOn '.').reverse with
  | [] => false
  | last :: before =>
    let label? := if last.isEmpty then before.head? else some last
    match label? with
    | none => false
    | some label =>
      (!label.isEmpty && label.all Char.isDigit) || (ipv4Number? label).isSome

/-- An IPv4 address of one to four numbers, the last of which fills the bytes that are left. -/
def isIpv4 (name : List Char) : Bool :=
  let parts := name.splitOn '.'
  let parts := if parts.getLast? == some [] then parts.dropLast else parts
  match parts.mapM ipv4Number? with
  | none => false
  | some numbers =>
    match numbers.mapM id with
    | none => false
    | some numbers =>
      match numbers.reverse with
      | [] => false
      | last :: before =>
        before.length ≤ 3 && last < Nat.pow 2 (32 - 8 * before.length) && before.all (· ≤ 255)

/-! ## IPv6 -/

/-- The four decimal numbers at the end of an IPv6 address: `seen` of them are read. -/
def ipv4Tail : Nat → Nat → List Char → Bool
  | 0, _, _ => false
  | fuel + 1, seen, cs =>
    if cs.isEmpty then seen = 4
    else
      let body? :=
        if seen = 0 then some cs
        else match cs with
          | '.' :: rest => if seen < 4 then some rest else none
          | _ => none
      match body? with
      | none => false
      | some body =>
        let (digits, rest) := digitRun body
        !digits.isEmpty && natOfDigits digits ≤ 255 &&
          !(digits.head? == some '0' && 1 < digits.length) && ipv4Tail fuel (seen + 1) rest

/-- The groups of an IPv6 address: how many were read and whether a gap stood among them. -/
def ipv6Groups : Nat → Nat → Bool → List Char → Bool
  | 0, _, _, _ => false
  | fuel + 1, count, gap, cs =>
    match cs with
    | [] => if gap then true else count = 8
    | c :: rest =>
      if count = 8 then false
      else if c = ':' then
        if gap then false else ipv6Groups fuel (count + 1) true rest
      else
        let digits := (cs.take 4).takeWhile fun d => (hexDigitValue? d).isSome
        match cs.drop digits.length with
        | [] => ipv6Groups fuel (count + 1) gap []
        | '.' :: _ =>
          if digits.isEmpty ∨ 6 < count then false
          else ipv4Tail 6 0 cs && (gap || count = 6)
        | ':' :: after => if after.isEmpty then false else ipv6Groups fuel (count + 1) gap after
        | _ => false

/-- An IPv6 address without its brackets. -/
def isIpv6 (cs : List Char) : Bool :=
  match cs with
  | ':' :: ':' :: rest => ipv6Groups (cs.length + 2) 1 true rest
  | ':' :: _ => false
  | _ :: _ :: _ => ipv6Groups (cs.length + 2) 0 false cs
  | _ => false

/-- An IPv6 address in brackets. -/
def isBracketed (cs : List Char) : Bool :=
  cs.getLast? == some ']' && isIpv6 (cs.drop 1).dropLast

/-! ## Names -/

/-- Signs that may not stand in a name. -/
def isForbiddenInName (c : Char) : Bool :=
  c.toNat ≤ 32 || c.toNat = 127 || "#/:<>?@[\\]^\x60\x7b|\x7d%".toList.contains c

/-- Signs that may not stand in an opaque host. -/
def isForbiddenInOpaque (c : Char) : Bool :=
  c.toNat = 0 || "\t\n\r #/:<>?@[\\]^|".toList.contains c

/-- Characters that vanish from names. -/
def isIgnoredInName (c : Char) : Bool :=
  let n := c.toNat
  n = 0xAD || n = 0x200B || n = 0x2060 || n = 0xFEFF || n = 0x2064 || (0xFE00 ≤ n && n ≤ 0xFE0F)

/-- Full stops of other scripts are stops, wide forms of ASCII are ASCII. -/
def narrow (c : Char) : Char :=
  let n := c.toNat
  if n = 0x3002 ∨ n = 0xFF0E ∨ n = 0xFF61 then '.'
  else if 0xFF01 ≤ n ∧ n ≤ 0xFF5E then Char.ofNat (n - 0xFEE0)
  else if n = 0x3000 ∨ n = 0xA0 then ' '
  else c

def isInCategories (names : List String) (c : Char) : Bool :=
  names.any fun n => (Pattern.findProperty? Pattern.categories n).any (·.contains c)

/-- Characters beyond ASCII that no name has. -/
def isDisallowed (c : Char) : Bool :=
  128 ≤ c.toNat &&
    (c.toNat = 0xFFFD || isInCategories ["cc", "cf", "cn", "co", "zl", "zp", "zs"] c)

/-- A label may not begin with a mark. -/
def beginsWithMark (label : List Char) : Bool :=
  match label with
  | c :: _ => 128 ≤ c.toNat && isInCategories ["mn", "mc", "me"] c
  | [] => false

/-- The name that a text stands for, if it is one. -/
def hostName? (cs : List Char) : Option (List Char) := do
  let decoded ← decodeUtf8? (percentDecode cs)
  let mapped := Text.lowerList ((decoded.filter (!isIgnoredInName ·)).map narrow)
  if mapped.isEmpty || mapped.any isForbiddenInName || mapped.any isDisallowed ||
      (mapped.splitOn '.').any beginsWithMark then none
  else some mapped

/-- A host of a special scheme: an address or a name. -/
def isSpecialHost (cs : List Char) : Bool :=
  if cs.head? = some '[' then isBracketed cs
  else match hostName? cs with
    | none => false
    | some name => if endsInNumber name then isIpv4 name else true

/-- A host of another scheme. -/
def isOpaqueHost (cs : List Char) : Bool :=
  if cs.head? = some '[' then isBracketed cs
  else !cs.isEmpty && !cs.any isForbiddenInOpaque

end RequestValidation.Format
