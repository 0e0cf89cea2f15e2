import Entitlement.Numeral.Integer
import Entitlement.Numeral.Significant

/-!
# `Entitlement.Attribute.Value` — attribute values and their text

An attribute is a loosely typed scalar. A condition only ever sees its text: nothing for null and false, `1`
for true, the decimal digits of an integer, and 14 significant digits of a double.

## Contents
- **`Value`**: the scalars.
- **`positional`, `scientific`**: the two layouts of a double's significant digits, and `floatText`, which
  chooses between them.
- **`Value.text`**: the text that is pasted into a condition.
-/

namespace Entitlement.Attribute

open Numeral

/-- The value of an attribute. -/
inductive Value where
  | null
  | boolean (b : Bool)
  | integer (i : Int)
  | float (x : Binary64)
  | string (s : String)
  deriving DecidableEq

/-- Doubles are written with this many significant digits. -/
def floatDigits : Nat := 14

/-- Digits without the zeros at their end. -/
def dropTrailingZeros (ds : List Char) : List Char := (ds.reverse.dropWhile (· = '0')).reverse

/-- The layout `d.ddd` times a power of ten: one digit before the point and at least one behind it, then
    `E` with the sign and the digits of the exponent. -/
def scientific (ds : List Char) (exponent : Int) : List Char :=
  let fraction := if ds.drop 1 = [] then ['0'] else ds.drop 1
  ds.take 1 ++ '.' :: fraction ++
    'E' :: (if exponent < 0 then '-' else '+') :: Nat.toDigits 10 exponent.natAbs

/-- The layout without a power of ten: the point stands behind digit `exponent`, zeros fill the places
    without a significant digit, and a whole number has no point. -/
def positional (ds : List Char) (exponent : Int) : List Char :=
  if exponent < 0 then
    '0' :: '.' :: List.replicate (exponent.natAbs - 1) '0' ++ ds
  else
    let whole := exponent.natAbs + 1
    if ds.length ≤ whole then ds ++ List.replicate (whole - ds.length) '0'
    else ds.take whole ++ '.' :: ds.drop whole

/-- The text of the magnitude numbered `n`: positional from `0.0001` up to 14 digits before the point, else
    with a power of ten. -/
def magnitudeText (n : Nat) : List Char :=
  let d := Binary64.significant floatDigits n
  let ds := dropTrailingZeros (Nat.toDigits 10 d.coefficient)
  if d.exponent < -4 ∨ (floatDigits : Int) ≤ d.exponent then scientific ds d.exponent
  else positional ds d.exponent

/-- The text of a double: words for the values without digits, a sign, and the magnitude. -/
def floatText (x : Binary64) : List Char :=
  if x.isNaN then ['N', 'A', 'N']
  else
    (if x.negative then ['-'] else []) ++
      (if x.isInfinite then ['I', 'N', 'F'] else if x.isZero then ['0'] else magnitudeText x.magnitude)

/-- Digits beyond the fourteenth do not show: the sum of a tenth and two tenths is `0.3`. -/
example : floatText (.ofBits 0x3FD3333333333334) = "0.3".toList := by decide +kernel

/-- The power of ten begins where the digits before the point would outnumber the significant ones. -/
example : floatText (.ofBits 0x42D6BCC41E900000) = "1.0E+14".toList := by decide +kernel

/-- The text of a value. -/
def Value.text : Value → List Char
  | .null => []
  | .boolean b => if b then ['1'] else []
  | .integer i => decimalText i
  | .float x => floatText x
  | .string s => s.toList

end Entitlement.Attribute
