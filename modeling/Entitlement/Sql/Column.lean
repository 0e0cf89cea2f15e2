import Entitlement.Sql.Datum

/-!
# `Entitlement.Sql.Column` — columns, their types, and comparison

A column's type does not limit what its cells hold. It decides how a value is converted when it is stored and
when it is compared.

## Contents
- **`ColumnType`** with `store`; **`Column`**.
- **`sameName`**: names of tables and columns, in any ASCII letter case.
- **`Operand`**: a value with the type of the column it comes from, and `equals`.
-/

namespace Entitlement.Sql

open Numeral (Binary64)

/-- The type of a column. -/
inductive ColumnType where
  | untyped
  | integer
  | real
  | text
  | blob
  deriving DecidableEq

namespace ColumnType

/-- Whether a type is one of numbers. -/
def isNumeric : ColumnType → Bool
  | .integer | .real => true
  | .untyped | .text | .blob => false

/-- The integer of 64 bits, other than the least and the greatest, that a double equals. -/
def whole? (x : Binary64) : Option Int :=
  let i := x.signedUnits / Binary64.unitsPerOne
  if i * Binary64.unitsPerOne = x.signedUnits ∧ Numeral.int64.least < i ∧ i < Numeral.int64.greatest
  then some i else none

/-- The double nearest to an integer. -/
def double (i : Int) : Binary64 := .nearest (i < 0) i.natAbs 1

/-- A number as a column of integers stores it: a whole double is an integer. -/
def asInteger : Datum → Datum
  | .real x => ((whole? x).map Datum.integer).getD (.real x)
  | d => d

/-- A number as a column of doubles stores it: an integer is a double. Whole doubles come there as integers,
    so that no zero is negative. -/
def asDouble (d : Datum) : Datum :=
  match asInteger d with
  | .integer i => .real (double i)
  | d => d

/-- A value as a column of this type stores it: texts that spell numbers are numbers among numbers, and
    integers are texts among texts. -/
def store (t : ColumnType) (d : Datum) : Datum :=
  match t with
  | .integer => asInteger d.numeric
  | .real => asDouble d.numeric
  | .text => d.textual
  | .untyped | .blob => d

/-- A value as it is compared with a column of this type. -/
def coerce (t : ColumnType) (d : Datum) : Datum :=
  match t with
  | .integer | .real => d.numeric
  | .text => d.textual
  | .untyped | .blob => d

end ColumnType

/-- A column of a table. -/
structure Column where
  name : String
  type : ColumnType
  /-- Whether null is refused. -/
  required : Bool := false
  /-- The value of a cell that is not given. -/
  default : Datum := .null
  deriving DecidableEq

/-- A name without its letter case. -/
def fold (name : String) : List Char := name.toList.map Char.toLower

/-- Whether two names are the same, in any ASCII letter case. -/
def sameName (a b : String) : Bool := fold a = fold b

/-! ## Comparison -/

/-- A value in a comparison, with the type of the column that it comes from. -/
structure Operand where
  type : Option ColumnType
  value : Datum

namespace Operand

/-- A value that comes from no column. -/
def given (d : Datum) : Operand := ⟨none, d⟩

/-- How the values of a comparison are converted: a column decides over a value from elsewhere, and of two
    columns one of numbers over the other. -/
def conversion : Option ColumnType → Option ColumnType → Datum → Datum
  | some s, some t => if s.isNumeric || t.isNumeric then Datum.numeric else id
  | some t, none | none, some t => t.coerce
  | none, none => id

/-- Whether two values are equal, once converted. -/
def equals (x y : Operand) : Bool :=
  (conversion x.type y.type x.value).same (conversion x.type y.type y.value)

@[simp] theorem equals_given_integer (i j : Int) :
    equals ⟨some .integer, .integer i⟩ (given (.integer j)) = decide (i = j) :=
  Datum.same_integer i j

@[simp] theorem equals_integers (i j : Int) :
    equals ⟨some .integer, .integer i⟩ ⟨some .integer, .integer j⟩ = decide (i = j) :=
  Datum.same_integer i j

end Operand

end Entitlement.Sql
