import Entitlement.Config.Error
import Entitlement.Text.Identifier

/-!
# `Entitlement.Config.Tables` — the section on table names

## Contents
- **`Tables`**: the four names, with defaults; `validate` demands identifiers.
- **`TablesLayer`**: the section as one source gives it, with `overlay` and `resolve`.
-/

namespace Entitlement.Config

/-- The names of the tables that the relational store reads. -/
structure Tables where
  /-- The groups: `id, title, status, rules`. -/
  group : String
  /-- The memberships: `uid, group_id`. -/
  groupAccess : String
  /-- The rules: `id, name, status, condition`. -/
  rule : String
  /-- The users; every column is an attribute. -/
  user : String
  deriving DecidableEq

namespace Tables

/-- The name of each table, under the name of its setting. -/
def settings (t : Tables) : List (String × String) :=
  [("tables.group_table", t.group), ("tables.group_access_table", t.groupAccess),
    ("tables.rule_table", t.rule), ("tables.user_table", t.user)]

/-- Checks that every name is an identifier; the first one that is not is the error. -/
def validate (t : Tables) : Except Violation Unit :=
  match t.settings.find? fun (_, name) => !Text.isIdentifier name.toList with
  | some (key, name) => .error (.tableName key name)
  | none => .ok ()

end Tables

/-- The section as one source gives it; a name may be absent. -/
structure TablesLayer where
  group : Option String
  groupAccess : Option String
  rule : Option String
  user : Option String
  deriving DecidableEq

namespace TablesLayer

/-- The layer that sets nothing. -/
def absent : TablesLayer := ⟨none, none, none, none⟩

/-- The layer laid over a lower one: a name that it sets wins. -/
def overlay (upper lower : TablesLayer) : TablesLayer where
  group := upper.group.or lower.group
  groupAccess := upper.groupAccess.or lower.groupAccess
  rule := upper.rule.or lower.rule
  user := upper.user.or lower.user

/-- The section with defaults for the names that are not set. -/
def resolve (l : TablesLayer) : Tables where
  group := l.group.getD "auth_group"
  groupAccess := l.groupAccess.getD "auth_group_access"
  rule := l.rule.getD "auth_rule"
  user := l.user.getD "user"

end TablesLayer

end Entitlement.Config
