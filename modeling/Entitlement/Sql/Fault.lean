/-!
# `Entitlement.Sql.Fault` — why a statement fails

## Contents
- **`Fault`** with its `code` and `text`, and `message`, which joins them.
-/

namespace Entitlement.Sql

/-- Why a statement fails. -/
inductive Fault where
  | noFileSystem (name : String)
  | noTable (table : String)
  | tableExists (table : String)
  /-- The name of a new table begins as only names of the database's own tables do. -/
  | reservedName (table : String)
  /-- The rows of a table are written by the database alone. -/
  | readOnly (table : String)
  | permanent (table : String)
  /-- A list of columns or values is missing; what stands in its place is given. -/
  | missingList (instead : String)
  | repeatedColumn (column : String)
  /-- The key of a new table names something else than a column. -/
  | keyExpression
  /-- A query names a column that its table does not have. -/
  | noColumn (name : String)
  /-- An insertion names a column that its table does not have. -/
  | noTarget (table column : String)
  | valueCount (table : String) (columns values : Nat)
  | tooManyValues
  | required (table column : String)
  /-- A row would be the second one with its values in some columns. -/
  | duplicate (table : String) (columns : List String) (isKey : Bool)
  /-- The key of a row is no integer. -/
  | keyType
  /-- There is no key left for a row. -/
  | full
  deriving DecidableEq

namespace Fault

/-- The number of the fault. -/
def code : Fault → Nat
  | .required _ _ => 1299
  | .duplicate _ _ isKey => if isKey then 1555 else 2067
  | .keyType => 20
  | .full => 13
  | .noFileSystem _ | .noTable _ | .tableExists _ | .reservedName _ | .readOnly _ | .permanent _
  | .missingList _ | .repeatedColumn _ | .keyExpression | .noColumn _ | .noTarget _ _ | .valueCount _ _ _
  | .tooManyValues => 1

/-- The wording of the fault. -/
def text : Fault → String
  | .noFileSystem name => "no such vfs: " ++ name
  | .noTable table => "no such table: " ++ table
  | .tableExists table => "table \"" ++ table ++ "\" already exists"
  | .reservedName table => "object name reserved for internal use: " ++ table
  | .readOnly table => "table " ++ table ++ " may not be modified"
  | .permanent table => "table " ++ table ++ " may not be dropped"
  | .missingList instead => "near \"" ++ instead ++ "\": syntax error"
  | .repeatedColumn column => "duplicate column name: " ++ column
  | .keyExpression => "expressions prohibited in PRIMARY KEY and UNIQUE constraints"
  | .noColumn name => "no such column: " ++ name
  | .noTarget table column => "table " ++ table ++ " has no column named " ++ column
  | .valueCount table columns values =>
    "table " ++ table ++ " has " ++ toString columns ++ " columns but " ++ toString values ++
      " values were supplied"
  | .tooManyValues => "too many SQL variables"
  | .required table column => "NOT NULL constraint failed: " ++ table ++ "." ++ column
  | .duplicate table columns _ =>
    "UNIQUE constraint failed: " ++ ", ".intercalate (columns.map (table ++ "." ++ ·))
  | .keyType => "datatype mismatch"
  | .full => "database or disk is full"

/-- The fault as the database reports it. -/
def message (f : Fault) : String := "(code: " ++ toString f.code ++ ") " ++ f.text

end Fault

end Entitlement.Sql
