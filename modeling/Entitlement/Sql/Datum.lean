import Entitlement.Attribute.Value
import Entitlement.Numeral.Extended
import Entitlement.Text.Blank
import Entitlement.Text.Utf8

/-!
# `Entitlement.Sql.Datum` — the values in the cells of a table

## Contents
- **`Datum`**: null, integers, doubles, texts and bytes; a cell of any column can hold any of them.
- **`compare`, `same`**: the order of all data, and equality, which null has with nothing.
- **`numeric`, `textual`**: the conversions that a comparison makes.
- **`toAttribute`**: a cell as an attribute of a user.
-/

namespace Entitlement.Sql

open Numeral (Binary64)
open Attribute (Value)

/-- The value of a cell. -/
inductive Datum where
  | null
  | integer (i : Int)
  | real (x : Binary64)
  | text (s : String)
  | blob (bytes : List UInt8)
  deriving DecidableEq

namespace Datum

/-- A double as a cell holds it: what is not a number is null. -/
def ofDouble (x : Binary64) : Datum := if x.isNaN then .null else .real x

/-- The place of a kind of data in the order: null, numbers, texts, bytes. -/
def rank : Datum → Nat
  | .null => 0
  | .integer _ | .real _ => 1
  | .text _ => 2
  | .blob _ => 3

/-- The order of byte sequences, from the front. -/
def compareBytes : List UInt8 → List UInt8 → Ordering
  | [], [] => .eq
  | [], _ :: _ => .lt
  | _ :: _, [] => .gt
  | a :: as, b :: bs => (compare a b).then (compareBytes as bs)

/-- The order of all data. Integers and doubles compare by their exact values. -/
protected def compare : Datum → Datum → Ordering
  | .integer i, .integer j => Ord.compare i j
  | .integer i, .real y => Ord.compare (i * Binary64.unitsPerOne) y.signedUnits
  | .real x, .integer j => Ord.compare x.signedUnits (j * Binary64.unitsPerOne)
  | .real x, .real y => Ord.compare x.signedUnits y.signedUnits
  | .text s, .text t => Ord.compare s t
  | .blob a, .blob b => compareBytes a b
  | a, b => Ord.compare a.rank b.rank

/-- Whether two data are equal. Null equals nothing. -/
def same (a b : Datum) : Bool := a ≠ .null && b ≠ .null && (a.compare b).isEq

@[simp] theorem same_integer (i j : Int) : same (.integer i) (.integer j) = decide (i = j) := by
  simp only [same, Datum.compare, ne_eq, reduceCtorEq, not_false_eq_true, decide_true, Bool.true_and]
  rw [Bool.eq_iff_iff]
  simp

@[simp] theorem same_text (s t : String) : same (.text s) (.text t) = decide (s = t) := by
  simp only [same, Datum.compare, ne_eq, reduceCtorEq, not_false_eq_true, decide_true, Bool.true_and]
  rw [Bool.eq_iff_iff]
  simp

/-! ## Conversions -/

/-- Whether a character is white space in ASCII. -/
def isSpace (c : Char) : Bool := c == ' ' || ('\t' ≤ c && c ≤ '\r')

/-- The number that a text spells, with space around it allowed: an integer of 64 bits, or a double, which
    is read by steps and may be a neighbour of the nearest one. -/
def numeral? (s : List Char) : Option Datum :=
  let t := Text.trimWhere isSpace s
  match Numeral.signedWithin? Numeral.int64 t with
  | some i => some (.integer i)
  | none => (Numeral.Decimal.read? t).map fun d => .real d.stepwise

/-- A text that spells a number as that number; all else as it is. -/
def numeric : Datum → Datum
  | .text s => (numeral? s.toList).getD (.text s)
  | d => d

/-- An integer as its decimal text; all else as it is. -/
def textual : Datum → Datum
  | .integer i => .text (String.ofList (Numeral.decimalText i))
  | d => d

/-- The integer that a text begins with, space before it aside; without digits it is zero. One that has no 64
    bits is the nearest that has. -/
def leadingInteger (s : List Char) : Int :=
  let (negative, rest) := Numeral.splitSign (s.dropWhile isSpace)
  let n : Int := Nat.ofDigitChars 10 (rest.takeWhile Char.isDigit) 0
  Numeral.int64.clamp (if negative then -n else n)

/-- The datum as an integer: a double without its fraction, a text by what it begins with. -/
def toInteger : Datum → Int
  | .null => 0
  | .integer i => i
  | .real x => Numeral.int64.clamp (x.signedUnits.tdiv Binary64.unitsPerOne)
  | .text s => leadingInteger s.toList
  | .blob bytes => leadingInteger (bytes.map fun b => Char.ofNat b.toNat)

/-- The cell as an attribute. Bytes are read as text, as far as they are text. -/
def toAttribute : Datum → Value
  | .null => .null
  | .integer i => .integer i
  | .real x => .float x
  | .text s => .string s
  | .blob bytes => .string (String.ofList (Text.Utf8.decodeLossy bytes))

end Datum

end Entitlement.Sql
