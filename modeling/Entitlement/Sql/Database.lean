import Entitlement.Sql.Catalog
import Entitlement.Sql.Declaration

/-!
# `Entitlement.Sql.Database` — tables by name

## Contents
- **`Database`**: tables under their names, which count in any ASCII letter case, and the catalog.
- **Definition.** `create`, `createMissing`, `createAllMissing`, `drop`.
- **Row numbers.** `lastNumber?` and `recordNumber`: the numbers that tables have given to their rows.
- **Rows.** `insertRow`, `insertNamed`, `deleteRows`.
-/

namespace Entitlement.Sql

/-- The tables of a database, by their folded names, and the list of them. -/
structure Database where
  tables : Keyed (List Char) Table := ∅
  catalog : Catalog := {}

namespace Database

/-- The table that the database writes itself under a name, if there is one. -/
def ownTable? (db : Database) (name : String) : Option Table :=
  if catalogNames.any (sameName name) then some db.catalog.table
  else if temporaryCatalogNames.any (sameName name) then some (emptyCatalog temporaryCatalogName)
  else none

/-- The table with a name, if there is one. -/
def table? (db : Database) (name : String) : Option Table := (db.ownTable? name).or (db.tables.get? (fold name))

/-- The table with a name. -/
def table (db : Database) (name : String) : Except Fault Table :=
  match db.table? name with
  | some t => .ok t
  | none => .error (.noTable name)

/-- The table with a name, if its rows can be written. -/
def writable (db : Database) (name : String) : Except Fault Table :=
  match db.ownTable? name with
  | some t => .error (.readOnly t.name)
  | none => db.table name

/-- The database with a table under the table's own name. -/
def put (db : Database) (t : Table) : Database := { db with tables := db.tables.insert (fold t.name) t }

/-! ## Definition -/

/-- Checks that a new table can have a name. -/
def checkName (name : String) : Except Fault Unit :=
  if isReserved name then .error (.reservedName name) else .ok ()

/-- The table of the numbers that tables have given to their rows. -/
def sequenceTable : Table where
  name := sequenceName
  columns := [{ name := "name", type := .untyped }, { name := "seq", type := .untyped }]

/-- The database with a table and its entries in the catalog. -/
def putNew (db : Database) (t : Table) (text : String) : Database :=
  { db.put t with catalog := db.catalog.addTable t text }

/-- Adds a table with a new name. With the first table that never gives a number twice comes the table of the
    numbers. -/
def add (db : Database) (t : Table) (text : String) : Database :=
  let db := db.putNew t text
  if t.autoincrement && !db.tables.contains (fold sequenceName) then
    db.putNew sequenceTable ("CREATE TABLE " ++ sequenceName ++ "(name,seq)")
  else db

/-- Creates a declared table. -/
def create (db : Database) (d : Declaration) : Except Fault Database := do
  -- The name is settled before anything of the declaration is read.
  checkName d.name
  if (db.table? d.name).isSome then throw (.tableExists d.name)
  return db.add (← d.toTable) d.text

/-- Adds a table unless its name is taken. -/
def createMissing (db : Database) (t : Table) : Except Fault Database := do
  checkName t.name
  return if (db.table? t.name).isSome then db else db.add t t.declaration

/-- Adds tables as long as they can be added, and tells the first fault. -/
def createAllMissing (db : Database) : List Table → Database × Except Fault Unit
  | [] => (db, .ok ())
  | t :: rest =>
    match db.createMissing t with
    | .ok db => db.createAllMissing rest
    | .error f => (db, .error f)

/-! ## Row numbers -/

/-- The entry of a table among the numbers that tables have given to their rows. -/
def numberEntry? (db : Database) (t : Table) : Option Record :=
  (db.tables.get? (fold sequenceName)).bind fun s => s.scan.find? fun r => Table.cell r.2 0 = .text t.name

/-- The greatest number that a table has given to a row, if it never gives a number twice. -/
def lastNumber? (db : Database) (t : Table) : Option Int :=
  if t.autoincrement then
    some (((db.numberEntry? t).map fun r => (Table.cell r.2 1).toInteger).getD 0)
  else none

/-- Remembers that a table has given a number to a row. -/
def recordNumber (db : Database) (t : Table) (number : Int) : Database :=
  match db.lastNumber? t, db.tables.get? (fold sequenceName) with
  | some last, some s =>
    let cells : Cells := [.text t.name, .integer (max last number)]
    -- An entry changes only for a greater number; a missing one is added in any case.
    match db.numberEntry? t with
    | some r => if last < number then db.put (s.write r.1 cells) else db
    | none => db.put (s.write s.freshNumber cells)
  | _, _ => db

/-- Forgets the numbers that a table has given. -/
def forgetNumbers (db : Database) (t : Table) : Database :=
  match t.autoincrement, db.tables.get? (fold sequenceName) with
  | true, some s => db.put (s.removeWhere fun cells => Table.cell cells 0 = .text t.name)
  | _, _ => db

/-- Removes a table. -/
def drop (db : Database) (name : String) : Except Fault Database := do
  let t ← db.table name
  if isReserved t.name then throw (.permanent t.name)
  -- A later table of the same name begins with its numbers anew.
  let db := db.forgetNumbers t
  return { tables := db.tables.erase (fold name), catalog := db.catalog.removeTable t.name }

/-! ## Rows -/

/-- Removes the rows of a table. -/
def deleteRows (db : Database) (name : String) : Except Fault Database := do
  return db.put (← db.writable name).clear

/-- Adds a row to a table. -/
def insert (db : Database) (t : Table) (values : List Datum) : Except Fault Database := do
  let (t, number) ← t.insert (db.lastNumber? t) values
  return (db.recordNumber t number).put t

/-- Adds a row with values for all columns, in their order. -/
def insertRow (db : Database) (name : String) (values : List Datum) : Except Fault Database := do
  if values = [] then throw (.missingList ")")
  let t ← db.writable name
  if values.length ≠ t.columns.length then
    throw (.valueCount name t.columns.length values.length)
  db.insert t values

/-- Adds a row with values for some columns, by name. -/
def insertNamed (db : Database) (name : String) (given : List (String × Datum)) :
    Except Fault Database := do
  let t ← db.writable name
  match given.find? fun (column, _) => (t.position? column).isNone with
  | some (column, _) => throw (.noTarget name column)
  | none => db.insert t (t.arrange given)

end Database

end Entitlement.Sql
