import Entitlement.Sql.Table

/-!
# `Entitlement.Sql.Declaration` — declaring a table

## Contents
- **`Declaration`**: the columns of a new table and its key, by name, and `toTable`, which checks them.
- **`Declaration.text`, `Table.declaration`**: the text that declares a table, with its key behind all columns,
  or with all that is known of a column beside it.
-/

namespace Entitlement.Sql

/-- The word for a type; a column can have none. -/
def ColumnType.word : ColumnType → String
  | .untyped => ""
  | .integer => "INTEGER"
  | .real => "REAL"
  | .text => "TEXT"
  | .blob => "BLOB"

/-- A name in double quotes. -/
def quotedName (name : String) : String := "\"" ++ name ++ "\""

/-- What a new table is to be. -/
structure Declaration where
  name : String
  columns : List (String × ColumnType)
  key : List String

namespace Declaration

/-- The first column whose name an earlier one has. -/
def repeated? : List String → List String → Option String
  | _, [] => none
  | earlier, name :: rest => if earlier.any (sameName name) then some name else repeated? (name :: earlier) rest

/-- The table that is declared. Its columns have different names, and its key names columns. -/
def toTable (d : Declaration) : Except Fault Table := do
  if d.columns = [] then throw (.missingList (if d.key = [] then ")" else "PRIMARY"))
  if let some name := repeated? [] (d.columns.map Prod.fst) then throw (.repeatedColumn name)
  let t : Table := { name := d.name, columns := d.columns.map fun (name, type) => { name, type } }
  match d.key.mapM t.position? with
  | some key => return { t with key }
  | none => throw .keyExpression

/-- The text of the declaration. -/
def text (d : Declaration) : String :=
  let column (c : String × ColumnType) : String := quotedName c.1 ++ " " ++ c.2.word
  let key := if d.key = [] then [] else ["PRIMARY KEY (" ++ ", ".intercalate (d.key.map quotedName) ++ ")"]
  "CREATE TABLE " ++ quotedName d.name ++ " (" ++ ", ".intercalate (d.columns.map column ++ key) ++ ")"

end Declaration

/-- A value as it is written in a statement. -/
def Datum.literal : Datum → String
  | .text s => "'" ++ String.ofList (s.toList.flatMap fun c => if c = '\'' then [c, c] else [c]) ++ "'"
  | .integer i => String.ofList (Numeral.decimalText i)
  | .null | .real _ | .blob _ => "NULL"

namespace Table

/-- What is declared of the column at a position. -/
def columnClause (t : Table) (position : Nat) (c : Column) : String :=
  c.name ++ " " ++ c.type.word ++
    (if t.key = [position] then " PRIMARY KEY" ++ if t.autoincrement then " AUTOINCREMENT" else "" else "") ++
    (if c.required then " NOT NULL" else "") ++
    (if c.default = .null then "" else " DEFAULT " ++ c.default.literal) ++
    (if [position] ∈ t.unique then " UNIQUE" else "")

/-- The text that declares a table, on a line for every column. -/
def declaration (t : Table) : String :=
  let columns := t.columns.zipIdx.map fun (c, i) => t.columnClause i c
  let unique := (t.unique.filter fun u => u.length ≠ 1).map fun u =>
    "UNIQUE(" ++ ", ".intercalate (u.map t.columnName) ++ ")"
  let clauses := (columns ++ unique).map fun clause => "\n\t\t\t" ++ clause
  "CREATE TABLE " ++ quotedName t.name ++ " (" ++ ",".intercalate clauses ++ "\n\t\t)"

end Table

end Entitlement.Sql
