import Entitlement.Condition.Operator
import Entitlement.Numeral.Decimal

/-!
# `Entitlement.Condition.Comparison` — comparing the texts of two operands

Two runs of digits compare as integers, exactly. Otherwise two decimal literals compare as doubles. All other
texts compare by their code points.

## Contents
- **`integer?`, `number?`**: how an operand is read as a number.
- **`order?`**: the order of two operands.
- **`Operator.holds`**: the truth value of a comparison, and `truthy`, that of an operand without one.
-/

namespace Entitlement.Condition

open Numeral

/-- An operand as an integer of 128 bits. -/
def integer? (s : List Char) : Option Int := signedWithin? int128 s

/-- An operand as a finite double. -/
def number? (s : List Char) : Option Binary64 :=
  ((Decimal.read? s).map Decimal.toBinary64).filter Binary64.isFinite

/-- The order of two operands: as integers, else as doubles, else as texts. -/
def order? (left right : List Char) : Option Ordering :=
  match integer? left, integer? right with
  | some l, some r => some (compare l r)
  | _, _ =>
    match number? left, number? right with
    | some l, some r => Binary64.order? l r
    | _, _ => some (compare left right)

/-- The truth value of a comparison. Operators that do not compare are false, and so is a comparison of
    operands without an order. -/
def Operator.holds (o : Operator) (left right : List Char) : Bool :=
  match order? left right with
  | none => false
  | some ord =>
    match o with
    | .ge => ord != .lt
    | .gt => ord == .gt
    | .le => ord != .gt
    | .lt => ord == .lt
    | .eq => ord == .eq
    | .ne => ord != .eq
    | .and | .or | .unsupported _ => false

/-- The truth value of an operand that is not compared: false for the empty text and for `0`. -/
def truthy (s : List Char) : Bool := s ≠ [] && s ≠ ['0']

end Entitlement.Condition
