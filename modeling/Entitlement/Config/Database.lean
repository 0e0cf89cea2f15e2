import Entitlement.Config.Error

/-!
# `Entitlement.Config.Database` — the section on the database

## Contents
- **`Database`**: URL, number of connections and waiting time, with defaults; `validate`.
- **`DatabaseLayer`**: the section as one source gives it, with `overlay` and `resolve`.
-/

namespace Entitlement.Config

/-- How the relational store is reached. -/
structure Database where
  url : String
  maxConnections : Nat
  /-- How long a read waits for a locked database, in milliseconds. -/
  busyTimeout : Nat
  deriving DecidableEq

/-- Checks that the URL is one of the supported kind and that there is a connection at all. -/
def Database.validate (d : Database) : Except Violation Unit :=
  if !"sqlite:".toList.isPrefixOf d.url.toList then .error (.databaseUrl d.url)
  else if d.maxConnections = 0 then .error .noConnections
  else .ok ()

/-- The section as one source gives it; a field may be absent. -/
structure DatabaseLayer where
  url : Option String
  maxConnections : Option Nat
  busyTimeout : Option Nat
  deriving DecidableEq

namespace DatabaseLayer

/-- The layer that sets nothing. -/
def absent : DatabaseLayer := ⟨none, none, none⟩

/-- The layer laid over a lower one: a field that it sets wins. -/
def overlay (upper lower : DatabaseLayer) : DatabaseLayer where
  url := upper.url.or lower.url
  maxConnections := upper.maxConnections.or lower.maxConnections
  busyTimeout := upper.busyTimeout.or lower.busyTimeout

/-- The section with defaults for the fields that are not set. -/
def resolve (l : DatabaseLayer) : Database where
  url := l.url.getD "sqlite:./ruleauth.db"
  maxConnections := l.maxConnections.getD 4
  busyTimeout := l.busyTimeout.getD 5000

end DatabaseLayer

end Entitlement.Config
