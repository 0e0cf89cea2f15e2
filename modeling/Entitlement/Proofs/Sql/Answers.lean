import Entitlement.Proofs.Collection.Keyed
import Entitlement.Sql.Connection

/-!
# `Entitlement.Proofs.Sql.Answers` — from the rows of a query to groups and rules

A connection may name the columns of an answer by tables that are no longer there. As long as all names that it keeps
are those of the present tables (`Connection.Coherent`), a query has the header of the present tables
(`Connection.Coherent.header_eq`), and keeping that is no harm (`Connection.Coherent.remember`). What the query gives
are its rows, read one by one (`groupsOf_eq_mapM`, `rulesAmong_eq_mapM`).
-/

namespace Entitlement.Sql

/-! ## Headers -/

namespace Connection

variable {c : Connection}

/-- The names that a connection keeps for the columns of an answer are those of the present tables. -/
def Coherent (c : Connection) : Prop :=
  ∀ q names, c.headers.get? q = some names → q.header c.database = .ok names

theorem coherent_of_database (db : Database) : Coherent { database := db } := by
  intro q names h
  cases h

theorem Coherent.header_eq (h : c.Coherent) (q : Statement) : c.header q = q.header c.database := by
  unfold header
  cases hnow : q.header c.database with
  | error f => rfl
  | ok names =>
    show Except.ok ((c.headers.get? q).getD names) = _
    cases hkept : c.headers.get? q with
    | none => rfl
    | some names' => rw [Option.getD_some, ← h q names' hkept, hnow]

theorem database_remember (c : Connection) (q : Statement) : (c.remember q).database = c.database := by
  unfold remember
  cases c.header q <;> rfl

theorem Coherent.remember (h : c.Coherent) (q : Statement) : (c.remember q).Coherent := by
  unfold Connection.remember
  cases hheader : c.header q with
  | error f => exact h
  | ok names =>
    rw [h.header_eq] at hheader
    let present (q : Statement) (names : List String) : Prop := q.header c.database = .ok names
    exact Keyed.forall_insert (p := present) h hheader

end Connection

/-! ## Reading answers -/

/-- Reads a group from a row of an answer. -/
def groupIn (header : List String) (row : List Datum) : Except Error Group := do
  return ⟨⟨← readInteger header row "id"⟩, ← readText header row "title", ← readText header row "rules"⟩

/-- Reads a rule from a row of an answer. -/
def ruleIn (header : List String) (row : List Datum) : Except Error Rule := do
  return ⟨⟨← readInteger header row "id"⟩, ← readText header row "name", ← readText header row "condition"⟩

theorem groupIn_ok (g : Group) :
    groupIn ["id", "title", "rules"] [.integer g.id.value, .text g.title, .text g.rules] = .ok g := by
  have hid (a b c : Datum) : valueOf ["id", "title", "rules"] [a, b, c] "id" = .ok a := rfl
  have htitle (a b c : Datum) : valueOf ["id", "title", "rules"] [a, b, c] "title" = .ok b := rfl
  have hrules (a b c : Datum) : valueOf ["id", "title", "rules"] [a, b, c] "rules" = .ok c := rfl
  rw [groupIn, readInteger, readText, readText, hid, htitle, hrules]
  rfl

theorem ruleIn_ok (r : Rule) :
    ruleIn ["id", "name", "condition"] [.integer r.id.value, .text r.name, .text r.condition] = .ok r := by
  have hid (a b c : Datum) : valueOf ["id", "name", "condition"] [a, b, c] "id" = .ok a := rfl
  have hname (a b c : Datum) : valueOf ["id", "name", "condition"] [a, b, c] "name" = .ok b := rfl
  have hcondition (a b c : Datum) : valueOf ["id", "name", "condition"] [a, b, c] "condition" = .ok c := rfl
  rw [ruleIn, readInteger, readText, readText, hid, hname, hcondition]
  rfl

theorem statement_ok_bind {α β : Type} (a : α) (f : α → Except Error β) : (statement (.ok a) >>= f) = f a := rfl

variable {c : Connection} {tables : Config.Tables} {header : List String}

theorem groupsOf_eq_mapM {columns : GroupColumns} (hheader : c.header (groupStatement tables) = .ok header)
    (hcolumns : GroupColumns.find c.database tables.groupAccess tables.group = .ok columns) (u : UserId) :
    groupsOf c tables u = (columns.answer u).mapM (groupIn header) := by
  rw [groupsOf, hheader, hcolumns, statement_ok_bind, statement_ok_bind]
  rfl

theorem rulesAmong_eq_mapM {ids : Ascending RuleId} {columns : RuleColumns} (hids : ids.isEmpty = false)
    (hheader : c.header (ruleStatement tables ids) = .ok header)
    (hcolumns : RuleColumns.find c.database tables.rule ids.size = .ok columns) :
    rulesAmong c tables ids = (columns.answer ids.toList).mapM (ruleIn header) := by
  rw [rulesAmong, hids, hheader, hcolumns, statement_ok_bind, statement_ok_bind]
  rfl

end Entitlement.Sql
