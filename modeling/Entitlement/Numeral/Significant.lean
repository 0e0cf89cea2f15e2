import Entitlement.Numeral.Binary64
import Entitlement.Numeral.Rounding

/-!
# `Entitlement.Numeral.Significant` — a double rounded to significant decimal digits

## Contents
- **`Significant`**: a coefficient of a fixed number of digits and the decimal exponent of its first digit.
- **`decimalExponent`**: the position of the leading decimal digit of a magnitude.
- **`significant`**: the rounding itself, exact from the binary value, ties to even.
-/

namespace Entitlement.Numeral

/-- A value written as `coefficient` with the point after its first digit, times ten to `exponent`. -/
structure Significant where
  coefficient : Nat
  exponent : Int
  deriving DecidableEq

namespace Binary64

/-- The exponent of the leading decimal digit of the magnitude numbered `n`, counted from `-324`, which is
    that of the least magnitude above zero. -/
def decimalPlace (n : Nat) : Nat :=
  greatest (fun k => Nat.pow 10 k * unitsPerOne ≤ units n * Nat.pow 10 324) 0 10

/-- The magnitude numbered `n`, rounded to a number of significant digits, ties to even. Rounding up to the
    next power of ten moves the exponent. -/
def significant (digits : Nat) (n : Nat) : Significant :=
  let place := decimalPlace n
  let c := roundHalfEven (units n * Nat.pow 10 (323 + digits)) (unitsPerOne * Nat.pow 10 place)
  if c = Nat.pow 10 digits then ⟨Nat.pow 10 (digits - 1), (place : Int) - 323⟩ else ⟨c, (place : Int) - 324⟩

end Binary64

end Entitlement.Numeral
