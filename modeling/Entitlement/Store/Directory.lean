import Entitlement.Store.Backend

/-!
# `Entitlement.Store.Directory` — a store that is held in memory

## Contents
- **`Directory`**: rules, groups, memberships and attribute rows, and the operations that add to them.
- **`Directory.backend`**: the answers of the store.
- **`MemoryStore`**: a directory that can be marked unavailable and counts the questions that it answered.
-/

namespace Entitlement

open Attribute (Row)

/-- A rule or group as it is stored: only active ones are ever given out. -/
structure Stored (α : Type) where
  item : α
  active : Bool

/-- What a store in memory holds. -/
structure Directory where
  rules : Keyed RuleId (Stored Rule) := ∅
  groups : Keyed GroupId (Stored Group) := ∅
  /-- Users and their groups, in the order in which they were added; a pair may come twice. -/
  memberships : List (UserId × GroupId) := []
  rows : Keyed UserId Row := ∅
  primaryKey : Option String := none

namespace Directory

/-- Adds a rule; a rule with the same key is replaced. -/
def addRule (d : Directory) (r : Rule) (active : Bool) : Directory :=
  { d with rules := d.rules.insert r.id ⟨r, active⟩ }

/-- Adds a group; a group with the same key is replaced. -/
def addGroup (d : Directory) (g : Group) (active : Bool) : Directory :=
  { d with groups := d.groups.insert g.id ⟨g, active⟩ }

/-- Makes a user a member of a group, which need not exist. -/
def addMembership (d : Directory) (u : UserId) (g : GroupId) : Directory :=
  { d with memberships := d.memberships ++ [(u, g)] }

/-- Gives a user a row of attributes, in place of any other. -/
def addRow (d : Directory) (u : UserId) (row : Row) : Directory :=
  { d with rows := d.rows.insert u row }

/-- Declares the column that identifies a user. -/
def setPrimaryKey (d : Directory) (key : String) : Directory := { d with primaryKey := some key }

/-- An active group, by its key. -/
def activeGroup? (d : Directory) (g : GroupId) : Option Group :=
  match d.groups.get? g with
  | some ⟨group, true⟩ => some group
  | _ => none

/-- An active rule, by its key. -/
def activeRule? (d : Directory) (r : RuleId) : Option Rule :=
  match d.rules.get? r with
  | some ⟨rule, true⟩ => some rule
  | _ => none

/-- The active groups of a user, in the order of the memberships. -/
def groupsOf (d : Directory) (u : UserId) : List Group :=
  d.memberships.filterMap fun (member, g) => if member = u then d.activeGroup? g else none

/-- The active rules among a set of keys, in ascending order. -/
def rulesAmong (d : Directory) (ids : Ascending RuleId) : List Rule :=
  ids.toList.filterMap d.activeRule?

/-- The answers of the store; none of them fails. -/
def backend (d : Directory) : Backend where
  groups u := .ok (d.groupsOf u)
  rules ids := .ok (d.rulesAmong ids)
  primaryKey := .ok d.primaryKey
  attributes u _ := .ok (d.rows.get? u)

end Directory

/-! ## Availability and counters -/

/-- A store in memory, with the number of questions of each kind that it has answered and the column that
    the last question for attributes named. -/
structure MemoryStore where
  directory : Directory := {}
  unavailable : Bool := false
  groupFetches : Nat := 0
  ruleFetches : Nat := 0
  attributeFetches : Nat := 0
  lastPrimaryKey : Option String := none

namespace MemoryStore

/-- The failure of every question to an unavailable store. -/
def unavailableError : StoreError := .backend "in-memory store marked unavailable"

/-- The answers of the store at this moment. -/
def backend (s : MemoryStore) : Backend :=
  if s.unavailable then
    ⟨fun _ => .error unavailableError, fun _ => .error unavailableError, .error unavailableError,
      fun _ _ => .error unavailableError⟩
  else s.directory.backend

/-- The store after it was asked one question. An unavailable store counts nothing. -/
def observe (s : MemoryStore) (q : Query) : MemoryStore :=
  if s.unavailable then s
  else
    match q with
    | .groups _ => { s with groupFetches := s.groupFetches + 1 }
    | .rules _ => { s with ruleFetches := s.ruleFetches + 1 }
    | .attributes _ key =>
      { s with attributeFetches := s.attributeFetches + 1, lastPrimaryKey := some key }
    | .primaryKey | .sessionRead _ | .sessionWrite _ => s

/-- The store after a number of questions, of which those refused never reached it. -/
def observeAll (s : MemoryStore) (r : Refusals) (qs : List Query) : MemoryStore :=
  (qs.filter fun q => !r q.target).foldl observe s

end MemoryStore

end Entitlement
