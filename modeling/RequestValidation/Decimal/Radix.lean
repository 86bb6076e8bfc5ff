import RequestValidation.Decimal.Numeral
/-!
# Integers at the front of a text

`leadingInteger?` reads as much of a text as is an integer: an optional sign, an optional `0x` in
front of hexadecimal digits, and the longest run of digits of the radix. The digits are
accumulated in binary64, so a magnitude that needs more than 53 bits is rounded at each digit; up
to `2 ^ 63` the result is an integer of 64 bits, the one at the end of the range standing for
those just beyond it, and above that a binary64 number as long as there is one.

Results:
* `accumulate_nil`: no digits are zero.
* `accumulate_snoc`: one more digit is one more rounded step.
-/
namespace RequestValidation.Radix

/-- The value of a digit below the radix; the letters count on from ten in either case. -/
def digit? (radix : Nat) (c : Char) : Option Nat :=
  let value :=
    if c.isDigit then some (c.toNat - '0'.toNat)
    else if c.isLower then some (c.toNat - 'a'.toNat + 10)
    else if c.isUpper then some (c.toNat - 'A'.toNat + 10)
    else none
  value.filter (· < radix)

/-- The longest run of digits at the front. -/
def leadingDigits (radix : Nat) : List Char → List Nat
  | [] => []
  | c :: rest =>
    match digit? radix c with
    | some d => d :: leadingDigits radix rest
    | none => []

/-- One more digit, rounded behind the product and behind the sum. -/
def step (radix total digit : Nat) : Nat :=
  roundToPrecision (roundToPrecision (total * radix) 1 + digit) 1

/-- The number that digits denote, rounded at each of them. -/
def accumulate (radix : Nat) (digits : List Nat) : Nat := digits.foldl (step radix) 0

theorem accumulate_nil (radix : Nat) : accumulate radix [] = 0 := rfl

theorem accumulate_snoc (radix : Nat) (digits : List Nat) (d : Nat) :
    accumulate radix (digits ++ [d]) = step radix (accumulate radix digits) d := by
  simp [accumulate]

/-- The largest integer of 64 bits with a sign. -/
def maxInt : Int := Int.pow 2 63 - 1

/-- The result for a magnitude that is a binary64 number. -/
inductive Leading where
  | int (i : Int)
  | float (x : Binary64)
  | tooLarge
deriving DecidableEq, Repr

def Leading.of (negative : Bool) (total : Nat) : Leading :=
  if total ≤ Nat.pow 2 63 then .int (if negative then -(total : Int) else min total maxInt)
  else
    match Extended64.ofUnits negative (total * Nat.pow 2 Binary64.unitExponent) with
    | .finite x => .float x
    | _ => .tooLarge

/-- The radix to read in, and the text without the sign of a hexadecimal number. Without a radix
the number is decimal, unless it has that sign. -/
def splitRadix (radix : Option Nat) (cs : List Char) : Nat × List Char :=
  let given := radix.getD 10
  match cs with
  | '0' :: c :: rest =>
    if (c = 'x' ∨ c = 'X') ∧ (radix = none ∨ radix = some 16) then (16, rest) else (given, cs)
  | _ => (given, cs)

/-- The integer at the front of a text, if it starts with one. -/
def leadingInteger? (radix : Option Nat) (cs : List Char) : Option Leading :=
  let (negative, unsigned) := splitSign cs
  let (r, tail) := splitRadix radix unsigned
  match leadingDigits r tail with
  | [] => none
  | digits => some (.of negative (accumulate r digits))

end RequestValidation.Radix
