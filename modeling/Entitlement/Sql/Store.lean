import Entitlement.Config.Database
import Entitlement.Sql.Connection
import Entitlement.Sql.Schema

/-!
# `Entitlement.Sql.Store` — the relational store

## Contents
- **`Store`**: the names of the tables, and the identifying column once it has been looked up; its `backend`
  over a connection.
- **`observe`**: the store and the connection after a question.
- **`Pool`**, `connect`: a store over a configured database.
-/

namespace Entitlement.Sql

/-- A relational store: the names of its tables, and what it remembers. -/
structure Store where
  tables : Config.Tables
  /-- The column that identifies a user, or that there is none, once it has been looked up. -/
  identifying : Option (Option String) := none

namespace Store

/-- A store over tables with the given names, which have to be identifiers. -/
def ofTables (tables : Config.Tables) : Except Error Store := do
  tables.validate.mapError .configuration
  return { tables }

/-- The column that identifies a user. -/
def primaryKey (s : Store) (db : Database) : Option String :=
  s.identifying.getD (identifyingColumn? db s.tables.user)

/-- The answers of the store over a connection. -/
def backend (s : Store) (c : Connection) : Backend where
  groups u := (groupsOf c s.tables u).mapError Error.toStoreError
  rules ids := (rulesAmong c s.tables ids).mapError Error.toStoreError
  primaryKey := .ok (s.primaryKey c.database)
  attributes u column := (userRow c s.tables u column).mapError Error.toStoreError

/-- The store and its connection after one question. -/
def observe (s : Store) (c : Connection) (q : Query) : Store × Connection :=
  match q with
  | .groups _ => (s, c.remember (groupStatement s.tables))
  | .rules ids => (s, if ids.isEmpty then c else c.remember (ruleStatement s.tables ids))
  | .primaryKey => ({ s with identifying := some (s.primaryKey c.database) }, c)
  | .attributes u column => (s, c.afterUser s.tables u column)
  | .sessionRead _ | .sessionWrite _ => (s, c)

/-- The store and its connection after a number of questions. -/
def observeAll (s : Store) (c : Connection) (qs : List Query) : Store × Connection :=
  qs.foldl (fun (s, c) q => s.observe c q) (s, c)

end Store

/-- The connections to a database: the store over them, how many there can be, and for how many milliseconds
    one waits for another. -/
structure Pool where
  store : Store
  maxConnections : Nat
  busyTimeout : Nat

/-- The milliseconds from which on a connection cannot be told how long to wait. -/
def busyTimeoutLimit : Nat := 0x80000000

/-- Checks that the file system of a URL is there. -/
def checkFileSystem (url : String) : Except Fault Unit :=
  match fileSystem? url with
  | some name => if name ∈ fileSystems then .ok () else .error (.noFileSystem name)
  | none => .ok ()

/-- Opens a store over a configured database. -/
def connect (database : Config.Database) (tables : Config.Tables) : Except Error Pool := do
  database.validate.mapError .configuration
  (checkUrl database.url).mapError (.url database.url)
  statement (checkFileSystem database.url)
  if busyTimeoutLimit ≤ database.busyTimeout then throw .connectionLost
  return ⟨← Store.ofTables tables, database.maxConnections, database.busyTimeout⟩

end Entitlement.Sql
