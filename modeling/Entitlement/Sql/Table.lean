import Entitlement.Collection.Keyed
import Entitlement.Sql.Column
import Entitlement.Sql.Fault

/-!
# `Entitlement.Sql.Table` — one table and its rows

Every row has a number. In a table whose key is a single column of integers the number is that column;
elsewhere rows are numbered as they come. Rows are visited in the order of their numbers.

## Contents
- **`Table`**, `keyColumn?`, `constraints`.
- **`scan`, `visit`**: the rows in the order of their numbers, or of their cells at some positions.
- **`Reference`**: what a name in a query stands for; `column?`, `columnOrText`, and `require`.
- **`insert`**: a new row, if it meets the constraints.
-/

namespace Entitlement.Sql

/-- The cells of a row, in the order of the columns. -/
abbrev Cells := List Datum

/-- A row: its number and its cells. -/
abbrev Record := Int × Cells

/-- A table. Keys and other sets of columns are lists of positions. -/
structure Table where
  name : String
  columns : List Column
  /-- The columns of the key; without a key there are none. -/
  key : List Nat := []
  /-- Sets of columns in which no two rows agree, apart from the key. -/
  unique : List (List Nat) := []
  /-- Whether the table never gives a number twice; the numbers it gave are then remembered outside of it. -/
  autoincrement : Bool := false
  rows : Keyed Int Cells := ∅

namespace Table

/-- The cell at a position. -/
def cell (cells : Cells) (position : Nat) : Datum := cells.getD position .null

/-- The name of the column at a position. -/
def columnName (t : Table) (position : Nat) : String := (t.columns[position]?.map Column.name).getD ""

/-- The type of the column at a position. -/
def columnType (t : Table) (position : Nat) : ColumnType :=
  (t.columns[position]?.map Column.type).getD .untyped

/-- The position of the column that holds the number of the row: a key of one column of integers. -/
def keyColumn? (t : Table) : Option Nat :=
  match t.key with
  | [i] => if t.columnType i = .integer then some i else none
  | _ => none

/-- A set of columns in which no two rows agree. -/
structure Constraint where
  positions : List Nat
  isKey : Bool

/-- The constraints that are not upheld by the numbers of the rows. -/
def constraints (t : Table) : List Constraint :=
  (if t.key = [] ∨ t.keyColumn?.isSome then [] else [⟨t.key, true⟩]) ++ t.unique.map (⟨·, false⟩)

/-! ## Visiting rows -/

/-- All rows in the order of their numbers. -/
def scan (t : Table) : List Record := t.rows.entries.mergeSort fun a b => a.1 ≤ b.1

/-- Whether one row comes no later than another by the cells at some positions; rows that agree there
    come in either order. -/
def notAfter : List Nat → Cells → Cells → Bool
  | [], _, _ => true
  | i :: rest, a, b =>
    match (cell a i).compare (cell b i) with
    | .lt => true
    | .eq => notAfter rest a b
    | .gt => false

/-- All rows in the order of their cells at some positions, rows that agree there in the order of their
    numbers. -/
def visit (t : Table) (positions : List Nat) : List Record :=
  t.scan.mergeSort fun a b => notAfter positions a.2 b.2

/-- Visiting meets every row once. -/
theorem visit_perm (t : Table) (positions : List Nat) : (t.visit positions).Perm t.rows.entries :=
  (List.mergeSort_perm _ _).trans (List.mergeSort_perm _ _)

/-! ## Names in queries -/

/-- What a name in a query stands for. -/
inductive Reference where
  | cell (type : ColumnType) (position : Nat)
  | rowNumber
  | text (s : String)

/-- The value of a name in a row. -/
def Reference.on (ref : Reference) (r : Record) : Operand :=
  match ref with
  | .cell type i => ⟨some type, Table.cell r.2 i⟩
  | .rowNumber => ⟨some .integer, .integer r.1⟩
  | .text s => .given (.text s)

/-- The position of the column with a name. -/
def position? (t : Table) (name : String) : Option Nat :=
  t.columns.findIdx? fun c => sameName c.name name

/-- The column with a name; three names stand for the number of the row in a table without such a column. -/
def column? (t : Table) (name : String) : Option Reference :=
  match t.position? name with
  | some i => some (.cell (t.columnType i) i)
  | none => if ["rowid", "oid", "_rowid_"].any (sameName name) then some .rowNumber else none

/-- The position of the column with a name that stands behind a qualifier, or a fault. -/
def require (t : Table) (qualifier name : String) : Except Fault Nat :=
  match t.position? name with
  | some i => .ok i
  | none => .error (.noColumn (qualifier ++ name))

/-- The value of a column in a row. -/
def operand (t : Table) (position : Nat) (r : Record) : Operand :=
  ⟨some (t.columnType position), cell r.2 position⟩

/-- The column with a name in double quotes; a name of no column is a text. -/
def columnOrText (t : Table) (name : String) : Reference := (t.column? name).getD (.text name)

/-! ## Insertion -/

/-- A number that no row has, far from those that are given first and last. -/
def freeNumber (t : Table) : Int :=
  let isFree (n : Nat) : Bool := !t.rows.contains (0x4000000000000000 - n)
  0x4000000000000000 - ((List.range (t.rows.size + 1)).find? isFree).getD 0

/-- The number of a row that does not come with one: the one behind the last row. Behind the greatest number
    there is a free one, except in a table that never gives a number twice, of which the greatest number that
    it gave is known. -/
def nextNumber (t : Table) (given : Option Int) : Except Fault Int :=
  let last := t.rows.keys.max?.getD 0
  let next := if t.rows.isEmpty then 1 else last + 1
  match given with
  | some n =>
    if max last n = Numeral.int64.greatest then .error .full else .ok (max next (n + 1))
  | none => .ok (if last = Numeral.int64.greatest then t.freeNumber else next)

/-- The number of a row with the given cells. -/
def number (t : Table) (given : Option Int) (cells : Cells) : Except Fault Int :=
  match t.keyColumn?.map (cell cells) with
  | some (.integer i) => .ok i
  | none | some .null => t.nextNumber given
  | some _ => .error .keyType

/-- The cells of a row, with its number where the table keeps it. -/
def numbered (t : Table) (number : Int) (cells : Cells) : Cells :=
  match t.keyColumn? with
  | some i => cells.set i (.integer number)
  | none => cells

/-- Whether a row agrees with one of the table in all of some cells; null agrees with nothing. -/
def agrees (t : Table) (positions : List Nat) (cells : Cells) : Bool :=
  t.rows.values.any fun other => positions.all fun i => (cell cells i).same (cell other i)

/-- Checks that no required cell is null. -/
def checkRequired (t : Table) (cells : Cells) : Except Fault Unit :=
  match (t.columns.zip cells).find? fun (c, d) => c.required && d = .null with
  | some (c, _) => .error (.required t.name c.name)
  | none => .ok ()

/-- Checks the constraints on a new row. -/
def checkConstraints (t : Table) (cells : Cells) : Except Fault Unit :=
  match t.constraints.find? fun c => t.agrees c.positions cells with
  | some c => .error (.duplicate t.name (c.positions.map t.columnName) c.isKey)
  | none => .ok ()

/-- Adds a row with one value for each column, and tells its number. In a table that never gives a number
    twice, `given` is the greatest that it gave. -/
def insert (t : Table) (given : Option Int) (values : List Datum) : Except Fault (Table × Int) := do
  let stored := t.columns.zipWith (fun c d => c.type.store d) values
  let number ← t.number given stored
  let cells := t.numbered number stored
  -- Null is refused before any row is compared, and the key is compared before other constraints.
  t.checkRequired cells
  if (t.rows.get? number).isSome then throw (.duplicate t.name (t.key.map t.columnName) true)
  t.checkConstraints cells
  return ({ t with rows := t.rows.insert number cells }, number)

/-- The values of a row of which only some columns are given, by name. -/
def arrange (t : Table) (given : List (String × Datum)) : List Datum :=
  t.columns.map fun c => ((given.find? fun (name, _) => sameName c.name name).map Prod.snd).getD c.default

/-- The table without its rows. -/
def clear (t : Table) : Table := { t with rows := ∅ }

/-- The table with a row written under a number. -/
def write (t : Table) (number : Int) (cells : Cells) : Table := { t with rows := t.rows.insert number cells }

/-- The number behind the greatest of all rows. -/
def freshNumber (t : Table) : Int := t.rows.keys.max?.getD 0 + 1

/-- The table without the rows that meet a condition. -/
def removeWhere (t : Table) (p : Cells → Bool) : Table :=
  { t with rows := t.rows.filter fun r => !p r.2 }

end Table

end Entitlement.Sql
