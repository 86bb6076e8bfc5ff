/-!
# Binary64 numbers

The smallest positive binary64 number is `2⁻¹⁰⁷⁴`, and every finite one is a whole multiple of
it. A finite number is kept as a sign and that multiple, its count of `units`, so comparing two
numbers is comparing two integers and the zero with a minus sign equals the plain one.

Rounding is `roundToPrecision p q`: the whole number next to `p / q` that has at most 53
significant bits, a tie going to the even neighbour. Used on counts of units it rounds a real
number to binary64; used on whole numbers it rounds an integer.

Results:
* `roundHalfEven_mul`: a multiple of the divisor is rounded to its exact quotient.
* `lt_irrefl`: no number is below itself.
-/
namespace RequestValidation

/-- The whole number nearest to `n / d`; of two equally near the even one. -/
def roundHalfEven (n d : Nat) : Nat :=
  let q := n / d
  let r := 2 * (n % d)
  if r < d then q
  else if d < r then q + 1
  else if q % 2 = 0 then q else q + 1

/-- The whole number nearest to `p / q` with at most 53 significant bits, ties to even. -/
def roundToPrecision (p q : Nat) : Nat :=
  let step := Nat.pow 2 ((p / q).log2 + 1 - 53)
  roundHalfEven p (q * step) * step

theorem roundHalfEven_mul (n d : Nat) (h : 0 < d) : roundHalfEven (n * d) d = n := by
  simp [roundHalfEven, Nat.mul_div_cancel n h, h]

/-- A finite binary64 number: a sign and a count of `2⁻¹⁰⁷⁴`. -/
structure Binary64 where
  negative : Bool
  units : Nat
deriving DecidableEq, Repr

namespace Binary64

/-- The binary exponent of one unit, without its sign. -/
def unitExponent : Nat := 1074

/-- The first count that is beyond the largest finite number: `2 ^ 1024` in units. -/
def overflowUnits : Nat := Nat.pow 2 2098

/-- The signed count of units. -/
def signedUnits (x : Binary64) : Int :=
  if x.negative then -(x.units : Int) else x.units

protected def le (x y : Binary64) : Bool := x.signedUnits ≤ y.signedUnits

protected def lt (x y : Binary64) : Bool := x.signedUnits < y.signedUnits

theorem lt_irrefl (x : Binary64) : x.lt x = false := by simp [Binary64.lt]

def isZero (x : Binary64) : Bool := x.units == 0

/-- The number nearest to an integer that is small enough not to overflow. -/
def ofInt (i : Int) : Binary64 :=
  ⟨i < 0, roundToPrecision (i.natAbs * Nat.pow 2 unitExponent) 1⟩

/-- The whole part of the magnitude. -/
def floorAbs (x : Binary64) : Nat := x.units / Nat.pow 2 unitExponent

end Binary64

/-- A binary64 number, the infinities and the not-a-number included. -/
inductive Extended64 where
  | nan
  | infinite (negative : Bool)
  | finite (x : Binary64)
deriving DecidableEq, Repr

namespace Extended64

/-- Finite unless the count is past the largest finite number. -/
def ofUnits (negative : Bool) (units : Nat) : Extended64 :=
  if units < Binary64.overflowUnits then .finite ⟨negative, units⟩ else .infinite negative

def ofInt (i : Int) : Extended64 := .finite (.ofInt i)

/-- `x ≤ y`; the not-a-number is comparable to nothing. -/
protected def le : Extended64 → Extended64 → Bool
  | .nan, _ => false
  | _, .nan => false
  | .infinite true, _ => true
  | _, .infinite false => true
  | .infinite false, _ => false
  | _, .infinite true => false
  | .finite x, .finite y => x.le y

/-- `x < y`; the not-a-number is comparable to nothing. -/
protected def lt : Extended64 → Extended64 → Bool
  | .nan, _ => false
  | _, .nan => false
  | .infinite n, .infinite m => n && !m
  | .infinite n, .finite _ => n
  | .finite _, .infinite m => !m
  | .finite x, .finite y => x.lt y

def finite? : Extended64 → Option Binary64
  | .finite x => some x
  | _ => none

/-- Toward zero, cut off at `0` and at `limit`; the not-a-number gives `0`. -/
def toNatSaturating (limit : Nat) : Extended64 → Nat
  | .nan => 0
  | .infinite n => if n then 0 else limit
  | .finite x => if x.negative then 0 else min x.floorAbs limit

/-- The number nearest to `digits · 10 ^ exponent`. Exponents so far out that the result is zero
or infinite whatever the digits are decided without computing the power: with `b` for the binary
logarithm, the digits lie between `10 ^ (3 b / 10)` and `10 ^ (b / 3 + 1)`. -/
def ofDecimal (negative : Bool) (digits : Nat) (exponent : Int) : Extended64 :=
  if digits = 0 then .finite ⟨negative, 0⟩
  else
    let bits := digits.log2
    if (bits * 3 / 10 : Nat) + exponent > 400 then .infinite negative
    else if (bits / 3 + 1 : Nat) + exponent < -400 then .finite ⟨negative, 0⟩
    else if 0 ≤ exponent then
      ofUnits negative
        (roundToPrecision
          (digits * Nat.pow 10 exponent.toNat * Nat.pow 2 Binary64.unitExponent) 1)
    else
      ofUnits negative
        (roundToPrecision (digits * Nat.pow 2 Binary64.unitExponent)
          (Nat.pow 10 (-exponent).toNat))

end Extended64

end RequestValidation
