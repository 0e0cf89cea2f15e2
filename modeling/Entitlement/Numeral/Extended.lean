import Entitlement.Numeral.Decimal
import Entitlement.Numeral.Rounding

/-!
# `Entitlement.Numeral.Extended` — decimal literals by steps on 64 significant bits

A literal can be brought to a double without forming its power of ten: its leading digits are a number of 64
bits, and that number is moved by powers of ten, one after the other, in arithmetic that keeps 64 significant
bits. As every product is rounded, the double may be a neighbour of the nearest one.

## Contents
- **`Extended`**: numbers with 64 significant bits; `ofNat`, `inverse`, `mul`, each rounded to nearest with
  ties to even, `scale` by a power of ten, and `toBinary64`.
- **`Decimal.stepwise`**: the double of a literal by such steps.
-/

namespace Entitlement.Numeral

/-- The number `significand * 2 ^ exponent`. -/
structure Extended where
  significand : Nat
  exponent : Int
  deriving DecidableEq

namespace Extended

/-- The number `n * 2 ^ exponent`, rounded to 64 significant bits. -/
def round (n : Nat) (exponent : Int) : Extended :=
  let surplus := n.log2 + 1 - 64
  ⟨roundHalfEven n (Nat.pow 2 surplus), exponent + surplus⟩

/-- A natural number, rounded. -/
def ofNat (n : Nat) : Extended := round n 0

/-- The inverse of a natural number that is no power of two, rounded. -/
def inverse (n : Nat) : Extended :=
  let places := n.log2 + 64
  ⟨roundHalfEven (Nat.pow 2 places) n, -places⟩

/-- The product of two numbers, rounded. -/
def mul (x y : Extended) : Extended := round (x.significand * y.significand) (x.exponent + y.exponent)

/-- The number times ten to the power `e`, by the hundredth, the tenth and the first power of ten or of a
    tenth. -/
def scale (x : Extended) (e : Int) : Extended :=
  let power (n : Nat) : Extended := if e < 0 then inverse (Nat.pow 10 n) else ofNat (Nat.pow 10 n)
  let times (n count : Nat) (x : Extended) : Extended := Nat.repeat (fun x => x.mul (power n)) count x
  times 1 (e.natAbs % 10) (times 10 (e.natAbs % 100 / 10) (times 100 (e.natAbs / 100) x))

/-- The nearest double; all that exceeds the greatest finite one is infinity. -/
def toBinary64 (negative : Bool) (x : Extended) : Binary64 :=
  let num := x.significand * Nat.pow 2 x.exponent.toNat
  let den := Nat.pow 2 (-x.exponent).toNat
  if Binary64.units (Binary64.infinityMagnitude - 1) * den < num * Binary64.unitsPerOne then
    .infinity negative
  else .nearest negative num den

example : (ofNat 3).mul (inverse 10) = ⟨11068046444225730970, -65⟩ := by decide +kernel

end Extended

namespace Decimal

/-- A coefficient without the digits behind the first that bring it to `1844674407370955160`, and the exponent
    that makes up for them. -/
def leading (coefficient : Nat) (exponent : Int) : Nat × Int :=
  if h : 1844674407370955160 ≤ coefficient / 10 then leading (coefficient / 10) (exponent + 1)
  else (coefficient, exponent)
termination_by coefficient
decreasing_by omega

/-- A number times a power of ten, with as much of the power as fits below `1844674407370955161` multiplied
    into the number. -/
def raise (n : Nat) : Nat → Nat × Int
  | 0 => (n, 0)
  | e + 1 => if n < 1844674407370955161 then raise (n * 10) e else (n, (e : Int) + 1)

/-- A number divided by a power of ten, with as much of the power as divides the number cancelled. -/
def cancel (n : Nat) : Nat → Nat × Int
  | 0 => (n, 0)
  | e + 1 => if n % 10 = 0 then cancel (n / 10) e else (n, -(e : Int) - 1)

/-- The double that the steps lead to. Powers far out of the range of doubles are settled at once. -/
def stepwise (d : Decimal) : Binary64 :=
  if d.coefficient = 0 then .zero d.negative
  else
    let (n, e) := leading d.coefficient d.exponent
    let (n, e) := if e < 0 then cancel n e.natAbs else raise n e.natAbs
    -- The number has no more than 64 bits, so that a power beyond these decides alone.
    if e = 0 then .nearest d.negative n 1
    else if 400 < e then .infinity d.negative
    else if e < -400 then .zero d.negative
    else ((Extended.ofNat n).scale e).toBinary64 d.negative

end Decimal

end Entitlement.Numeral
