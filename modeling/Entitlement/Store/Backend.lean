import Entitlement.Attribute.Row
import Entitlement.Collection.Ascending
import Entitlement.Rule.Basic

/-!
# `Entitlement.Store.Backend` — the questions that a store answers

A store knows the active groups of a user, the active rules among a set of keys, the column that identifies a
user and the attributes of a user. `Backend` holds its answers at one moment; between two moments they may
change, and any of them may be an error.

## Contents
- **`StoreError`** and its `message`.
- **`Backend`**: the answers of a store.
- **`Query`**: a question as it was put, to the store or to the session store.
- **`Refusals`**: questions that are refused before they reach the store.
-/

namespace Entitlement

open Attribute (Row)

/-- Why a store gave no answer. -/
inductive StoreError where
  /-- The store could not be reached or failed; the text is its own. -/
  | backend (text : String)
  /-- The store holds something that cannot be read. -/
  | invalidData (text : String)
  deriving DecidableEq

/-- The wording of a store's failure. -/
def StoreError.message : StoreError → String
  | .backend t => "authorization store unavailable: " ++ t
  | .invalidData t => "invalid stored data: " ++ t

/-- The answers of a store at one moment. -/
structure Backend where
  /-- The active groups of a user. -/
  groups : UserId → Except StoreError (List Group)
  /-- The active rules among a set of keys, in ascending order. -/
  rules : Ascending RuleId → Except StoreError (List Rule)
  /-- The column that identifies a user, if the store knows it. -/
  primaryKey : Except StoreError (Option String)
  /-- The attributes of a user, found by the column that identifies it. -/
  attributes : UserId → String → Except StoreError (Option Row)

/-- The identifying column of a store that knows of none. -/
def defaultPrimaryKey : String := "uid"

/-- A question as it was put. -/
inductive Query where
  | groups (user : UserId)
  | rules (ids : Ascending RuleId)
  | primaryKey
  | attributes (user : UserId) (primaryKey : String)
  | sessionRead (key : String)
  | sessionWrite (key : String)
  deriving DecidableEq

/-- The kinds of questions. -/
inductive Target where
  | groups
  | rules
  | primaryKey
  | attributes
  | sessionRead
  | sessionWrite
  deriving DecidableEq

/-- The kind of a question. -/
def Query.target : Query → Target
  | .groups _ => .groups
  | .rules _ => .rules
  | .primaryKey => .primaryKey
  | .attributes _ _ => .attributes
  | .sessionRead _ => .sessionRead
  | .sessionWrite _ => .sessionWrite

/-- The name of a kind of question. -/
def Target.text : Target → String
  | .groups => "groups"
  | .rules => "rules"
  | .primaryKey => "primary_key"
  | .attributes => "attributes"
  | .sessionRead => "session_get"
  | .sessionWrite => "session_set"

/-- The failure of a refused question. -/
def Target.refusal (t : Target) : StoreError := .invalidData (t.text ++ " refused")

/-- The kinds of questions that are refused. -/
abbrev Refusals := Target → Bool

namespace Refusals

/-- Nothing is refused. -/
def none : Refusals := fun _ => false

/-- The refusals with one kind of question refused or no longer refused. -/
def set (r : Refusals) (t : Target) (on : Bool) : Refusals := fun t' => if t' = t then on else r t'

/-- An answer, unless its kind of question is refused. -/
def guard {α : Type} (r : Refusals) (t : Target) (answer : Except StoreError α) : Except StoreError α :=
  if r t then .error t.refusal else answer

end Refusals

/-- The answers of a store some of whose questions are refused. -/
def Backend.refusing (b : Backend) (r : Refusals) : Backend where
  groups u := r.guard .groups (b.groups u)
  rules ids := r.guard .rules (b.rules ids)
  primaryKey := r.guard .primaryKey b.primaryKey
  attributes u k := r.guard .attributes (b.attributes u k)

end Entitlement
