import Entitlement.Numeral.Binary64
import Entitlement.Numeral.Integer

/-!
# `Entitlement.Numeral.Decimal` — decimal literals and their nearest doubles

A literal is an optional sign, digits with an optional point, and an optional power of ten: `12`, `-3.5`,
`.5`, `1.`, `1e3`. Its value is a coefficient times a power of ten, and its double is the one nearest to
that value.

## Contents
- **`Decimal`**: the exact value, and `read?`, which accepts exactly the literals.
- **`toBinary64`**: correct rounding. A literal whose leading digit stands too far out for any finite double,
  or too far down for any but zero, is settled without forming its power of ten.
-/

namespace Entitlement.Numeral

/-- An exact decimal value: plus or minus `coefficient * 10 ^ exponent`. -/
structure Decimal where
  negative : Bool
  coefficient : Nat
  exponent : Int
  deriving DecidableEq

namespace Decimal

/-- The power of ten behind `e` or `E`; nothing counts as zero. -/
def exponent? : List Char → Option Int
  | [] => some 0
  | c :: rest => if c = 'e' ∨ c = 'E' then signed? rest else none

/-- The literal without its sign: digits, a point with digits, a power of ten. There must be a digit before
    or behind the point. -/
def unsigned? (negative : Bool) (s : List Char) : Option Decimal :=
  let whole := s.takeWhile Char.isDigit
  let rest := s.dropWhile Char.isDigit
  let (fraction, tail) : List Char × List Char :=
    match rest with
    | '.' :: r => (r.takeWhile Char.isDigit, r.dropWhile Char.isDigit)
    | r => ([], r)
  if whole = [] ∧ fraction = [] then none
  else
    (exponent? tail).map fun e =>
      ⟨negative, Nat.ofDigitChars 10 (whole ++ fraction) 0, e - fraction.length⟩

/-- The exact value of a decimal literal. -/
def read? (s : List Char) : Option Decimal := unsigned? (splitSign s).1 (splitSign s).2

/-- The double nearest to the value, ties to even. -/
def toBinary64 (d : Decimal) : Binary64 :=
  let width : Int := (Nat.toDigits 10 d.coefficient).length
  if d.coefficient = 0 then .zero d.negative
  else if 310 < width + d.exponent then .infinity d.negative
  else if width + d.exponent < -330 then .zero d.negative
  else .nearest d.negative (d.coefficient * Nat.pow 10 d.exponent.toNat) (Nat.pow 10 (-d.exponent).toNat)

end Decimal

end Entitlement.Numeral
