import Entitlement.Numeral.Search

/-!
# `Entitlement.Numeral.Binary64` — double-precision floating-point numbers

A double is a sign and the 63 bits behind it, read as a number. Read so, magnitudes are numbered in
ascending order: 0 for zero, then the finite magnitudes, then infinity, then the not-a-numbers. Every finite
magnitude is a whole number of units of `2 ^ -1074`, so all comparison and rounding is exact arithmetic on
natural numbers.

## Contents
- **The type**, its bit pattern (`ofBits`, `toBits`) and classes (`isNaN`, `isInfinite`, `isFinite`).
- **`units`**: the exact value of a finite magnitude in units of `2 ^ -1074`.
- **`order?`**: the numerical order, undecided when a not-a-number takes part.
- **`nearest`**: the double nearest to a ratio, ties to the even significand, overflow to infinity.
-/

namespace Entitlement.Numeral

/-- A double-precision number: the sign bit, and the other 63 bits as a number. -/
structure Binary64 where
  negative : Bool
  magnitude : Nat
  magnitude_lt : magnitude < 0x8000000000000000
  deriving DecidableEq

namespace Binary64

/-- The magnitude of infinity; the finite magnitudes are those below it. -/
def infinityMagnitude : Nat := 0x7FF0000000000000

/-- The double with a given sign whose magnitude is numbered `n`, wrapped into 63 bits. -/
def ofMagnitude (negative : Bool) (n : Nat) : Binary64 :=
  ⟨negative, n % 0x8000000000000000, Nat.mod_lt _ (by decide)⟩

/-- The double with a given pattern of 64 bits. -/
def ofBits (bits : Nat) : Binary64 := ofMagnitude (bits / 0x8000000000000000 % 2 == 1) bits

/-- The pattern of 64 bits. -/
def toBits (x : Binary64) : Nat := (if x.negative then 0x8000000000000000 else 0) + x.magnitude

/-- Whether a double is not a number. -/
def isNaN (x : Binary64) : Bool := infinityMagnitude < x.magnitude

/-- Whether a double is an infinity. -/
def isInfinite (x : Binary64) : Bool := x.magnitude == infinityMagnitude

/-- Whether a double is a finite number. -/
def isFinite (x : Binary64) : Bool := x.magnitude < infinityMagnitude

/-- Whether a double is one of the two zeros. -/
def isZero (x : Binary64) : Bool := x.magnitude == 0

/-- The value of the magnitude numbered `n`, in units of `2 ^ -1074`: the first `2 ^ 52` are the multiples
    of the unit, and from there each run of `2 ^ 52` doubles the step. -/
def units (n : Nat) : Nat :=
  if n < 0x10000000000000 then n
  else (0x10000000000000 + n % 0x10000000000000) * Nat.pow 2 (n / 0x10000000000000 - 1)

/-- The number of units of `2 ^ -1074` in one. -/
def unitsPerOne : Nat := Nat.pow 2 1074

/-- The signed value in units of `2 ^ -1074`, where infinity counts as the next magnitude after the
    finite ones. -/
def signedUnits (x : Binary64) : Int := if x.negative then -(units x.magnitude : Int) else units x.magnitude

/-- The numerical order of two doubles, undecided when one is not a number. The two zeros are equal. -/
def order? (x y : Binary64) : Option Ordering :=
  if x.isNaN || y.isNaN then none else some (compare x.signedUnits y.signedUnits)

/-- The number of the magnitude nearest to `num / den`; of two that are equally near, the even one. -/
def nearestMagnitude (num den : Nat) : Nat :=
  let below := greatest (fun n => units n * den ≤ num * unitsPerOne) 0 63
  let twice := 2 * (num * unitsPerOne)
  let middle := (units below + units (below + 1)) * den
  if twice < middle then below
  else if middle < twice then below + 1
  else below + below % 2

/-- The double nearest to `num / den`, with a given sign; from half a step above the greatest finite
    magnitude on it is infinity. -/
def nearest (negative : Bool) (num den : Nat) : Binary64 :=
  ofMagnitude negative (min (nearestMagnitude num den) infinityMagnitude)

/-- Negative zero, or zero. -/
def zero (negative : Bool) : Binary64 := ofMagnitude negative 0

/-- Infinity with a sign. -/
def infinity (negative : Bool) : Binary64 := ofMagnitude negative infinityMagnitude

theorem magnitude_ofMagnitude {s : Bool} {n : Nat} (h : n < 0x8000000000000000) :
    (ofMagnitude s n).magnitude = n := Nat.mod_eq_of_lt h

theorem magnitude_nearest (s : Bool) (num den : Nat) :
    (nearest s num den).magnitude = min (nearestMagnitude num den) infinityMagnitude := by
  refine magnitude_ofMagnitude (Nat.lt_of_le_of_lt (Nat.min_le_right _ _) ?_)
  decide

/-- Rounding never gives a not-a-number. -/
@[simp] theorem isNaN_nearest (s : Bool) (num den : Nat) : (nearest s num den).isNaN = false := by
  simp only [isNaN, magnitude_nearest, decide_eq_false_iff_not, Nat.not_lt]
  exact Nat.min_le_right _ _

/-- Reading back the bits of a double gives the double. -/
@[simp] theorem ofBits_toBits (x : Binary64) : ofBits x.toBits = x := by
  obtain ⟨s, n, h⟩ := x
  simp only [ofBits, toBits, ofMagnitude, mk.injEq]
  cases s
  · exact ⟨by simp only [Bool.false_eq_true, ↓reduceIte, beq_eq_false_iff_ne]; omega,
      by simp only [Bool.false_eq_true, ↓reduceIte]; omega⟩
  · exact ⟨by simp only [↓reduceIte, beq_iff_eq]; omega, by simp only [↓reduceIte]; omega⟩

end Binary64

end Entitlement.Numeral
