import Entitlement.Rule.Basic
import Entitlement.Sql.Database
import Entitlement.Sql.Plan

/-!
# `Entitlement.Sql.Statement` — the queries of the relational store

## Contents
- **`Statement`**: a query as it is put, apart from the values it is put with.
- **Preparation.** `GroupColumns`, `RuleColumns`, `UserColumns`: where a query finds what it names, in the order
  in which a missing table or column is noticed; `Statement.header`, the names of the columns of the answer.
- **Answers.** `groupRows`, `ruleRows`, `userRow?`: the rows of the answer, in order.
-/

namespace Entitlement.Sql

/-- A query, apart from the values that it is put with. -/
inductive Statement where
  /-- The active groups of a user. -/
  | groups (memberships groups : String)
  /-- The active rules among a number of keys. -/
  | rules (table : String) (count : Nat)
  /-- The user with a value in a column. -/
  | user (table column : String)
  deriving DecidableEq

/-! ## Preparation -/

/-- What the query for groups names. -/
structure GroupColumns where
  memberships : Table
  groups : Table
  id : Nat
  title : Nat
  rules : Nat
  uid : Nat
  status : Nat
  groupId : Nat

/-- Finds what the query for groups names. Both tables are looked up before any column, and the columns that
    are read before those that are compared. -/
def GroupColumns.find (db : Database) (membershipTable groupTable : String) : Except Fault GroupColumns := do
  let memberships ← db.table membershipTable
  let groups ← db.table groupTable
  return {
    memberships, groups
    id := ← groups.require "g." "id"
    title := ← groups.require "g." "title"
    rules := ← groups.require "g." "rules"
    uid := ← memberships.require "a." "uid"
    status := ← groups.require "g." "status"
    groupId := ← memberships.require "a." "group_id" }

/-- What the query for rules names. -/
structure RuleColumns where
  rules : Table
  id : Nat
  name : Nat
  /-- The query quotes this name, so that in a table without the column it stands for itself. -/
  condition : Option Nat
  status : Nat

/-- The greatest number of values that a query can be put with. -/
def valueLimit : Nat := 32766

/-- Finds what the query for rules names. -/
def RuleColumns.find (db : Database) (table : String) (count : Nat) : Except Fault RuleColumns := do
  -- The values are counted before any name is looked up.
  if valueLimit < count then throw .tooManyValues
  let rules ← db.table table
  return {
    rules
    id := ← rules.require "" "id"
    name := ← rules.require "" "name"
    condition := rules.position? "condition"
    status := ← rules.require "" "status" }

/-- The names of the columns of the answer to a query. A column that is read as it is has the name that its
    table gives it. -/
def Statement.header (db : Database) : Statement → Except Fault (List String)
  | .groups membershipTable groupTable => do
    let c ← GroupColumns.find db membershipTable groupTable
    return [c.groups.columnName c.id, "title", "rules"]
  | .rules table count => do
    let c ← RuleColumns.find db table count
    return [c.rules.columnName c.id, c.rules.columnName c.name, "condition"]
  | .user table _ => do
    let users ← db.table table
    return users.columns.map Column.name

/-! ## Answers -/

/-- Rows in ascending order of a value; rows with equal values stay in order. -/
def orderBy {α : Type} (value : α → Datum) (rows : List α) : List α :=
  rows.mergeSort fun a b => ((value a).compare (value b)).isLE

/-- A value, or the empty text for null. -/
def orEmpty : Datum → Datum
  | .null => .text ""
  | d => d

/-- Whether a value is the status of an active entry. -/
def isActive (status : Operand) : Bool := status.equals (.given (.integer 1))

namespace GroupColumns

variable (c : GroupColumns)

/-- Whether the values of the column that joins a table to another can be searched for: where one of the two
    holds numbers, only there. -/
def isSearchable (own other : ColumnType) : Bool := own.isNumeric || !other.isNumeric

/-- The order in which the two tables are visited. -/
def plan : Join :=
  let groupId := c.memberships.columnType c.groupId
  let id := c.groups.columnType c.id
  c.memberships.plannedJoin c.groups
    { restrictions := [⟨c.uid, .value, true⟩, ⟨c.groupId, .partner, isSearchable groupId id⟩]
      needed := [c.uid, c.groupId] }
    { restrictions := [⟨c.status, .flag, true⟩, ⟨c.id, .partner, isSearchable id groupId⟩]
      needed := [c.id, c.status, c.title, c.rules], sorting := some c.id, elsewhere := 1 }

/-- Whether a membership is one of the user. -/
def isOf (u : UserId) (m : Record) : Bool := (c.memberships.operand c.uid m).equals (.given (.integer u.value))

/-- Whether a membership is one in an active group. -/
def joins (m g : Record) : Bool :=
  isActive (c.groups.operand c.status g) && (c.memberships.operand c.groupId m).equals (c.groups.operand c.id g)

/-- The active groups of a user, once for every membership, in the order in which they are met. -/
def met (u : UserId) : List Record :=
  let memberships := (c.memberships.visit c.plan.firstOrder).filter (c.isOf u)
  let groups := c.groups.visit c.plan.secondOrder
  -- Inside, a group comes once for every membership, next to itself only where the groups are outside.
  if c.plan.isFirstOuter then memberships.flatMap fun m => groups.filter fun g => c.joins m g
  else groups.flatMap fun g => (memberships.filter fun m => c.joins m g).map fun _ => g

/-- The active groups of a user in the order of the answer. -/
def found (u : UserId) : List Record :=
  if c.plan.sorted then c.met u else orderBy (fun g => Table.cell g.2 c.id) (c.met u)

/-- The rows of the answer: key, title and list of rules. -/
def answer (u : UserId) : List (List Datum) :=
  (c.found u).map fun g =>
    [Table.cell g.2 c.id, orEmpty (Table.cell g.2 c.title), orEmpty (Table.cell g.2 c.rules)]

end GroupColumns

namespace RuleColumns

variable (c : RuleColumns)

/-- The order in which the table is visited for a number of keys. -/
def plan (count : Nat) : List Nat :=
  c.rules.planned {
    restrictions := [⟨c.status, .flag, true⟩, ⟨c.id, if count = 1 then .value else .among count, true⟩]
    needed := [c.id, c.name, c.status] ++ c.condition.toList
    sorting := some c.id }

/-- Whether a row is an active rule with one of some keys. -/
def isAmong (ids : List RuleId) (r : Record) : Bool :=
  isActive (c.rules.operand c.status r) &&
    ids.any fun i => (c.rules.operand c.id r).equals (.given (.integer i.value))

/-- The rows of the answer: key, name and condition. -/
def answer (ids : List RuleId) : List (List Datum) :=
  let found := (c.rules.visit (c.plan ids.length)).filter (c.isAmong ids)
  (orderBy (fun r => Table.cell r.2 c.id) found).map fun r =>
    [Table.cell r.2 c.id, Table.cell r.2 c.name,
      (c.condition.map fun i => orEmpty (Table.cell r.2 i)).getD (.text "condition")]

end RuleColumns

/-- The order in which a table is visited for a value of one column: that of a constraint that begins with the
    column, if there is one. -/
def Table.lookupOrder (t : Table) (position : Option Nat) : List Nat :=
  match t.constraints.find? fun c => position.isSome && c.positions.head? = position with
  | some c => c.positions
  | none => []

/-- The first row that is met with a user's key in a column. -/
def Table.userRow? (t : Table) (u : UserId) (column : String) : Option Cells :=
  ((t.visit (t.lookupOrder (t.position? column))).find? fun r =>
    ((t.columnOrText column).on r).equals (.given (.integer u.value))).map Prod.snd

end Entitlement.Sql
