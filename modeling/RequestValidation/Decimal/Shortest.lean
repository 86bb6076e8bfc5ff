import RequestValidation.Decimal.Binary64
/-!
# Shortest decimal text of a binary64 number

`shortest x` is the decimal with the fewest digits that rounds back to `x`; of several the one
nearest to `x`, of two equally near the one with the even last digit. The real numbers that round
to `x` form an interval around it, its ends included exactly when the significand is even; a grid
of decimals with a given number of digits meets that interval if and only if one of the two grid
points next to `x` does, so only those two are tried for each number of digits.

`FloatStyle` holds what differs between the formats that print numbers: how an exponent is signed.
Between `10 ^ -5` and `10 ^ 16` every format here writes the number positionally, with at least
one digit behind the point.
-/
namespace RequestValidation

/-- The decimal `coefficient · 10 ^ power`, a coefficient without trailing zeros. -/
structure Decimal where
  coefficient : Nat
  power : Int
deriving DecidableEq, Repr

namespace Decimal

/-- Moves trailing zeros of the coefficient into the power. -/
def stripZeros : Nat → Nat → Int → Decimal
  | 0, c, k => ⟨c, k⟩
  | fuel + 1, c, k => if c ≠ 0 ∧ c % 10 = 0 then stripZeros fuel (c / 10) (k + 1) else ⟨c, k⟩

end Decimal

namespace Binary64

/-- The interval of reals that round to a positive count of units, in quarters of a unit:
its ends, and whether they belong to it. -/
structure RoundingInterval where
  low : Nat
  high : Nat
  closed : Bool

def roundingInterval (units : Nat) : RoundingInterval :=
  let step := Nat.pow 2 (units.log2 + 1 - 53)
  let lowGap := if 1 < step ∧ units = Nat.pow 2 units.log2 then step else 2 * step
  ⟨4 * units - lowGap, 4 * units + 2 * step, (units / step) % 2 = 0⟩

/-- Is `c · 10 ^ k` in the interval? -/
def RoundingInterval.contains (r : RoundingInterval) (c : Nat) (k : Int) : Bool :=
  let scale := 4 * Nat.pow 2 unitExponent
  let (v, l, h) :=
    if 0 ≤ k then (c * Nat.pow 10 k.toNat * scale, r.low, r.high)
    else (c * scale, r.low * Nat.pow 10 (-k).toNat, r.high * Nat.pow 10 (-k).toNat)
  if r.closed then l ≤ v && v ≤ h else l < v && v < h

/-- The decimal exponent `e` with `10 ^ e ≤ units · 2⁻¹⁰⁷⁴ < 10 ^ (e + 1)`. -/
def decimalExponent (units : Nat) : Int :=
  let guess := ((units.log2 : Int) - unitExponent) * 30103 / 100000
  let next := guess + 1
  let reached :=
    if 0 ≤ next then Nat.pow 10 next.toNat * Nat.pow 2 unitExponent ≤ units
    else Nat.pow 2 unitExponent ≤ units * Nat.pow 10 (-next).toNat
  if reached then next else guess

/-- The two neighbours of the number among the multiples of `10 ^ k`, and how twice the distance
from the lower one compares with the distance between them. -/
def gridNeighbours (units : Nat) (k : Int) : Nat × Nat × Ordering :=
  let (n, d) :=
    if 0 ≤ k then (units, Nat.pow 2 unitExponent * Nat.pow 10 k.toNat)
    else (units * Nat.pow 10 (-k).toNat, Nat.pow 2 unitExponent)
  let c := n / d
  (c, c + 1, compare (2 * (n % d)) d)

/-- Tries grids of `n`, `n + 1`, … digits. Seventeen digits always suffice. -/
def shortestFrom (units : Nat) (exponent : Int) : Nat → Nat → Decimal
  | 0, n => ⟨(gridNeighbours units (exponent - n + 1)).1, exponent - n + 1⟩
  | fuel + 1, n =>
    let k := exponent - n + 1
    let (below, above, side) := gridNeighbours units k
    let interval := roundingInterval units
    match interval.contains below k, interval.contains above k with
    | true, true =>
      match side with
      | .lt => ⟨below, k⟩
      | .gt => ⟨above, k⟩
      | .eq => ⟨if below % 2 = 0 then below else above, k⟩
    | true, false => ⟨below, k⟩
    | false, true => ⟨above, k⟩
    | false, false => shortestFrom units exponent fuel (n + 1)

/-- The shortest decimal that reads back as the magnitude of the number. -/
def shortest (x : Binary64) : Decimal :=
  if x.units = 0 then ⟨0, 0⟩
  else
    let d := shortestFrom x.units (decimalExponent x.units) 17 1
    Decimal.stripZeros 20 d.coefficient d.power

end Binary64

/-- How a format writes a positive exponent. -/
structure FloatStyle where
  plusSign : Bool

/-- `1e+16`. -/
def FloatStyle.signed : FloatStyle := ⟨true⟩

/-- `1e16`. -/
def FloatStyle.bare : FloatStyle := ⟨false⟩

/-- The magnitude's digits and the position of the point: positional from `10 ^ -5` up to below
`10 ^ 16`, scientific outside. -/
def Decimal.render (style : FloatStyle) (d : Decimal) : String :=
  let digits := Nat.toDigits 10 d.coefficient
  let exponent : Int := d.power + digits.length - 1
  let zeros (n : Nat) : List Char := List.replicate n '0'
  let text : List Char :=
    if -5 ≤ exponent ∧ exponent < 0 then
      '0' :: '.' :: (zeros (-exponent - 1).toNat ++ digits)
    else if 0 ≤ exponent ∧ exponent < 16 then
      let whole := exponent.toNat + 1
      if digits.length ≤ whole then
        digits ++ zeros (whole - digits.length) ++ ['.', '0']
      else
        digits.take whole ++ '.' :: digits.drop whole
    else
      let fraction := digits.drop 1
      let mantissa := digits.take 1 ++ (if fraction.isEmpty then [] else '.' :: fraction)
      let sign := if exponent < 0 then ['-'] else if style.plusSign then ['+'] else []
      mantissa ++ 'e' :: sign ++ Nat.toDigits 10 exponent.natAbs
  String.ofList text

/-- Shortest text that reads back, always with a point or an exponent. -/
def Binary64.render (style : FloatStyle) (x : Binary64) : String :=
  let magnitude := if x.units = 0 then "0.0" else x.shortest.render style
  if x.negative then "-" ++ magnitude else magnitude

end RequestValidation
