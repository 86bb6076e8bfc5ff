import RequestValidation.Decimal.Binary64
/-!
# Decimal numerals

A numeral is `[+-]? (digits (. digits*)? | . digits) ([eE] [+-]? digits)?`. `Numeral.readPrefix?`
takes the longest numeral at the front of a text, `Numeral.read?` one that is the whole text, and
`Numeral.value` is the binary64 number nearest to it. `Extended64.read?` also knows the words for
the infinities and the not-a-number.

Results:
* `natOfDigits_nil`, `natOfDigits_snoc`: positional value, digit by digit.
-/
namespace RequestValidation

/-- The longest run of ASCII digits at the front, and the rest. -/
def digitRun (cs : List Char) : List Char × List Char :=
  (cs.takeWhile Char.isDigit, cs.dropWhile Char.isDigit)

/-- The number that a run of decimal digits denotes. -/
def natOfDigits (ds : List Char) : Nat :=
  ds.foldl (fun n d => 10 * n + (d.toNat - '0'.toNat)) 0

theorem natOfDigits_nil : natOfDigits [] = 0 := rfl

theorem natOfDigits_snoc (ds : List Char) (d : Char) :
    natOfDigits (ds ++ [d]) = 10 * natOfDigits ds + (d.toNat - '0'.toNat) := by
  simp [natOfDigits]

/-- A whole number with an optional plus sign, up to a limit. -/
def natUpTo? (limit : Nat) (cs : List Char) : Option Nat :=
  let digits := match cs with
    | '+' :: rest => rest
    | _ => cs
  if digits.isEmpty ∨ !digits.all Char.isDigit then none
  else
    let n := natOfDigits digits
    if n ≤ limit then some n else none

/-- An optional sign: is it a minus, and what follows. -/
def splitSign : List Char → Bool × List Char
  | '-' :: rest => (true, rest)
  | '+' :: rest => (false, rest)
  | cs => (false, cs)

/-- A decimal numeral by its parts. -/
structure Numeral where
  negative : Bool
  whole : List Char
  fraction : List Char
  exponent : Int
deriving Repr, DecidableEq

namespace Numeral

/-- The digits before and behind the point; at least one digit in all. -/
def readMantissa? (cs : List Char) : Option ((List Char × List Char) × List Char) :=
  let (whole, rest) := digitRun cs
  match rest with
  | '.' :: tail =>
    let (fraction, after) := digitRun tail
    if whole.isEmpty && fraction.isEmpty then none
    else some ((whole, fraction), after)
  | _ => if whole.isEmpty then none else some ((whole, []), rest)

/-- An exponent, if a whole one stands here; otherwise zero and nothing is taken. -/
def readExponent (cs : List Char) : Int × List Char :=
  match cs with
  | e :: tail =>
    if e = 'e' ∨ e = 'E' then
      let (negative, afterSign) := splitSign tail
      let (digits, after) := digitRun afterSign
      if digits.isEmpty then (0, cs)
      else (if negative then -(natOfDigits digits : Int) else natOfDigits digits, after)
    else (0, cs)
  | [] => (0, [])

/-- The longest numeral at the front of a text; mirrors `float_prefix_regex`. -/
def readPrefix? (cs : List Char) : Option (Numeral × List Char) :=
  let (negative, unsigned) := splitSign cs
  match readMantissa? unsigned with
  | none => none
  | some ((whole, fraction), rest) =>
    let (exponent, after) := readExponent rest
    some (⟨negative, whole, fraction, exponent⟩, after)

/-- The numeral that the whole text is. -/
def read? (cs : List Char) : Option Numeral :=
  match readPrefix? cs with
  | some (n, []) => some n
  | _ => none

/-- The binary64 number nearest to the numeral. -/
def value (n : Numeral) : Extended64 :=
  Extended64.ofDecimal n.negative (natOfDigits (n.whole ++ n.fraction))
    (n.exponent - n.fraction.length)

end Numeral

/-- A numeral, or `inf`, `infinity` or `nan` in any letter case, with an optional sign. -/
def Extended64.read? (cs : List Char) : Option Extended64 :=
  match Numeral.read? cs with
  | some n => some n.value
  | none =>
    let (negative, word) := splitSign cs
    let word := word.map Char.toLower
    if word = "inf".toList ∨ word = "infinity".toList then some (.infinite negative)
    else if word = "nan".toList then some .nan
    else none

end RequestValidation
