import Entitlement.Config.Tables
import Entitlement.Rule.Basic
import Entitlement.Sql.Database
import Entitlement.Sql.Error

/-!
# `Entitlement.Sql.Schema` — the tables of a relational store, and filling them

## Contents
- **The tables**: `ruleTable`, `groupTable`, `membershipTable`, `userTable`.
- **Creation.** `createAccessTables`, `createUserTable`, and `standard`, with the default names.
- **Rows.** `addRule`, `addGroup`, `addMembership`, `addUser`.
-/

namespace Entitlement.Sql

/-! ## Tables -/

/-- The table of the rules. -/
def ruleTable (name : String) : Table where
  name
  columns := [
    { name := "id", type := .integer },
    { name := "name", type := .text, required := true },
    { name := "title", type := .text, required := true, default := .text "" },
    { name := "status", type := .integer, required := true, default := .integer 1 },
    { name := "condition", type := .text, required := true, default := .text "" }]
  key := [0]
  unique := [[1]]
  autoincrement := true

/-- The table of the groups. -/
def groupTable (name : String) : Table where
  name
  columns := [
    { name := "id", type := .integer },
    { name := "title", type := .text, required := true, default := .text "" },
    { name := "status", type := .integer, required := true, default := .integer 1 },
    { name := "rules", type := .text, required := true, default := .text "" }]
  key := [0]
  autoincrement := true

/-- The table of the memberships of users in groups. -/
def membershipTable (name : String) : Table where
  name
  columns := [
    { name := "uid", type := .integer, required := true },
    { name := "group_id", type := .integer, required := true }]
  unique := [[0, 1]]

/-- The table of the users. -/
def userTable (name : String) : Table where
  name
  columns := [
    { name := "uid", type := .integer },
    { name := "name", type := .text, required := true },
    { name := "score", type := .integer, required := true, default := .integer 0 },
    { name := "balance", type := .real },
    { name := "title", type := .text }]
  key := [0]

/-! ## Creation -/

/-- The tables of the rules, groups and memberships. -/
def accessTables (tables : Config.Tables) : List Table :=
  [ruleTable tables.rule, groupTable tables.group, membershipTable tables.groupAccess]

/-- Adds the tables of the rules, groups and memberships that are not there yet. All table names have to be
    identifiers. Tables that were added before a fault stay. -/
def createAccessTables (db : Database) (tables : Config.Tables) : Database × Except Error Unit :=
  match tables.validate with
  | .ok () =>
    let (db, r) := db.createAllMissing (accessTables tables)
    (db, statement r)
  | .error v => (db, .error (.configuration v))

/-- Adds the table of the users if it is not there yet. Its name has to be an identifier. -/
def createUserTable (db : Database) (name : String) : Except Error Database :=
  if Text.isIdentifier name.toList then statement (db.createMissing (userTable name))
  else .error (.invalidIdentifier name)

/-- The names of the tables when none are configured. -/
def defaultTables : Config.Tables := Config.TablesLayer.absent.resolve

/-- The database with all tables under their default names, and no rows. -/
def Database.standard : Database :=
  (accessTables defaultTables ++ [userTable defaultTables.user]).foldl (fun db t => db.add t t.declaration) {}

/-! ## Rows -/

/-- How the tables of rules and groups write whether an entry is active. -/
def status (active : Bool) : Datum := .integer (if active then 1 else 0)

/-- Adds a rule. -/
def addRule (db : Database) (tables : Config.Tables) (r : Rule) (active : Bool) : Except Error Database :=
  statement (db.insertNamed tables.rule
    [("id", .integer r.id.value), ("name", .text r.name), ("status", status active),
      ("condition", .text r.condition)])

/-- Adds a group. -/
def addGroup (db : Database) (tables : Config.Tables) (g : Group) (active : Bool) : Except Error Database :=
  statement (db.insertNamed tables.group
    [("id", .integer g.id.value), ("title", .text g.title), ("status", status active),
      ("rules", .text g.rules)])

/-- Adds a membership. -/
def addMembership (db : Database) (tables : Config.Tables) (u : UserId) (g : GroupId) :
    Except Error Database :=
  statement (db.insertNamed tables.groupAccess
    [("uid", .integer u.value), ("group_id", .integer g.value)])

/-- Adds a user. -/
def addUser (db : Database) (tables : Config.Tables) (u : UserId) (name : String) (score : Int) :
    Except Error Database :=
  statement (db.insertNamed tables.user
    [("uid", .integer u.value), ("name", .text name), ("score", .integer score)])

end Entitlement.Sql
