import Entitlement.Config.Tables
import Entitlement.Sql.Error
import Entitlement.Sql.Statement

/-!
# `Entitlement.Sql.Connection` — a database and the queries that were put to it

A connection keeps every query that it has understood. The names of the columns of its answers are those of
the first time, even where the tables have been made anew since; the values are those of the present tables.

## Contents
- **`Connection`**: the database, and the names of the columns of the answers so far; `header`, `remember`.
- **Reading.** `valueOf`, `readInteger`, `readText`.
- **Queries.** `groupsOf`, `rulesAmong`, `identifyingColumn?`, `userRow`.
- **`Connection.afterUser`**: what the query for a user leaves, which can break the connection.
-/

namespace Entitlement.Sql

open Attribute (Row)

/-- A database and the names of the columns of the answers to the queries that were put to it. -/
structure Connection where
  database : Database := {}
  headers : Keyed Statement (List String) := ∅

namespace Connection

/-- The names of the columns of the answer to a query. -/
def header (c : Connection) (s : Statement) : Except Fault (List String) := do
  let current ← s.header c.database
  return (c.headers.get? s).getD current

/-- The connection after a query. One that cannot be understood is not kept. -/
def remember (c : Connection) (s : Statement) : Connection :=
  match c.header s with
  | .ok names => { c with headers := c.headers.insert s names }
  | .error _ => c

end Connection

/-! ## Reading -/

/-- The value in the column with a name; of several such columns the last one counts. -/
def valueOf (header : List String) (row : List Datum) (name : String) : Except Error Datum :=
  match (header.zip row).reverse.lookup name with
  | some d => .ok d
  | none => .error (.noAnswerColumn name)

/-- The integer in a column. -/
def readInteger (header : List String) (row : List Datum) (name : String) : Except Error Int := do
  match ← valueOf header row name with
  | .integer i => return i
  | _ => throw (.decoding name)

/-- The text in a column; null is the empty text. -/
def readText (header : List String) (row : List Datum) (name : String) : Except Error String := do
  match ← valueOf header row name with
  | .text s => return s
  | .null => return ""
  | _ => throw (.decoding name)

/-! ## Queries -/

/-- The query for the groups of a user. -/
def groupStatement (tables : Config.Tables) : Statement := .groups tables.groupAccess tables.group

/-- The active groups of a user, ascending; a group is listed once for every membership. -/
def groupsOf (c : Connection) (tables : Config.Tables) (u : UserId) : Except Error (List Group) := do
  let header ← statement (c.header (groupStatement tables))
  let columns ← statement (GroupColumns.find c.database tables.groupAccess tables.group)
  (columns.answer u).mapM fun row => do
    return ⟨⟨← readInteger header row "id"⟩, ← readText header row "title",
      ← readText header row "rules"⟩

/-- The query for the rules among a number of keys. -/
def ruleStatement (tables : Config.Tables) (ids : Ascending RuleId) : Statement := .rules tables.rule ids.size

/-- The active rules among a set of keys, ascending. The empty set is answered without a look at the
    database. -/
def rulesAmong (c : Connection) (tables : Config.Tables) (ids : Ascending RuleId) :
    Except Error (List Rule) := do
  if ids.isEmpty then return []
  let header ← statement (c.header (ruleStatement tables ids))
  let columns ← statement (RuleColumns.find c.database tables.rule ids.size)
  (columns.answer ids.toList).mapM fun row => do
    return ⟨⟨← readInteger header row "id"⟩, ← readText header row "name",
      ← readText header row "condition"⟩

/-- The key of a table, if it is a single column. A table that is not there has none. -/
def identifyingColumn? (db : Database) (table : String) : Option String :=
  match db.table? table with
  | some t =>
    match t.key.eraseDups with
    | [i] => some (t.columnName i)
    | _ => none
  | none => none

/-- The query for the user with a value in a column. -/
def userStatement (tables : Config.Tables) (column : String) : Statement := .user tables.user column

/-- The names of the columns and the values of the user whose value in a column is its key. -/
def userCells (c : Connection) (tables : Config.Tables) (u : UserId) (column : String) :
    Except Error (List String × Option Cells) := do
  if !Text.isIdentifier column.toList then throw (.invalidIdentifier column)
  let header ← statement (c.header (userStatement tables column))
  let users ← statement (c.database.table tables.user)
  return (header, users.userRow? u column)

/-- The attributes of the user whose value in a column is its key. A row with more values than the answer has
    columns is not delivered. -/
def userRow (c : Connection) (tables : Config.Tables) (u : UserId) (column : String) :
    Except Error (Option Row) := do
  match ← userCells c tables u column with
  | (header, some cells) =>
    -- The names are those of the first time, and the table may have got other columns since.
    if cells.length < header.length then throw (.shortRow cells.length)
    else if header.length < cells.length then return none
    else return some (Keyed.ofList (header.zipWith (fun name d => (name, d.toAttribute)) cells))
  | (_, none) => return none

/-- The connection after the query for a user. A row with more values than the answer has columns breaks it,
    and a new connection begins with an empty database. -/
def Connection.afterUser (c : Connection) (tables : Config.Tables) (u : UserId) (column : String) : Connection :=
  match userCells c tables u column with
  | .ok (header, some cells) =>
    if header.length < cells.length then {} else c.remember (userStatement tables column)
  | .ok (_, none) => c.remember (userStatement tables column)
  | .error _ => c

end Entitlement.Sql
