import Entitlement.Access.Session
import Entitlement.Config.Authorization
import Entitlement.Rule.IdList

/-!
# `Entitlement.Access.Resolver` — the granted rules of a user, each step remembered

A resolver goes from a user's groups to the keys of their rules, to the rules, and to the truth of their
conditions. It remembers, per user, the groups, the attributes and the granted rules. Failures are never
remembered. In session mode the granted rules are also looked up in and written to the session store.

## Contents
- **`AccessError`** and its `message`.
- **`Caches`, `World`**: what is remembered, the session store, and the questions put so far.
- **`Services`**: the answers of the store and the session store during one operation.
- **`Lookup`**: an operation that may fail and changes the world either way.
- **`Resolver`** with `groups`, `attributes`, `resolve`, `granted`, `invalidate` and `clear`.
-/

namespace Entitlement

open Attribute (Row)
open Config (Authorization AuthenticationMode)

/-- Why an operation gave no answer. -/
inductive AccessError where
  | store (e : StoreError)
  | malformedList (e : MalformedList)
  | invalidRelation (text : String)
  | configuration (text : String)
  deriving DecidableEq

/-- The wording of the error. -/
def AccessError.message : AccessError → String
  | .store e => e.message
  | .malformedList ⟨g, segment⟩ =>
    "group " ++ g.text ++ " has a malformed rule list entry '" ++ segment ++ "'"
  | .invalidRelation t => "invalid relation '" ++ t ++ "', expected 'or' or 'and'"
  | .configuration t => "configuration error: " ++ t

/-- What a resolver remembers, per user. -/
structure Caches where
  groups : Keyed UserId (List Group) := ∅
  /-- That a user has no row is remembered too. -/
  attributes : Keyed UserId (Option Row) := ∅
  /-- A place that was made for granted rules and not filled does not differ from no place. -/
  granted : Keyed UserId GrantedRules := ∅

/-- Nothing remembered of a user. -/
def Caches.forget (c : Caches) (u : UserId) : Caches :=
  ⟨c.groups.erase u, c.attributes.erase u, c.granted.erase u⟩

/-- What operations change: the memory of the resolver, the session store, and the list of the questions
    put to either store, oldest first. -/
structure World where
  caches : Caches := {}
  sessions : SessionStore := ∅
  queries : List Query := []

/-- The stores as an operation finds them: the answers of the store, and whether the session store lets
    itself be read and written. -/
structure Services where
  backend : Backend
  sessionRead : Except StoreError Unit
  sessionWrite : Except StoreError Unit

/-- The services of a store and a willing session store. -/
def Services.ofBackend (b : Backend) : Services := ⟨b, .ok (), .ok ()⟩

/-- The services with some questions refused. -/
def Services.refusing (s : Services) (r : Refusals) : Services where
  backend := s.backend.refusing r
  sessionRead := r.guard .sessionRead s.sessionRead
  sessionWrite := r.guard .sessionWrite s.sessionWrite

/-- An operation: from a world to an answer or an error, and the world after it. -/
abbrev Lookup := ExceptT AccessError (StateM World)

namespace Lookup

/-- Puts a question; it is recorded whatever the answer is. -/
def ask {α : Type} (q : Query) (answer : Except StoreError α) : Lookup α := do
  modify fun w => { w with queries := w.queries ++ [q] }
  match answer with
  | .ok a => pure a
  | .error e => throw (.store e)

/-- Changes what is remembered. -/
def remember (f : Caches → Caches) : Lookup Unit := modify fun w => { w with caches := f w.caches }

/-- What is remembered. -/
def remembered {α : Type} (f : Caches → α) : Lookup α := do return f (← get).caches

end Lookup

open Lookup

/-- A resolver: whether it uses the session store, and how it finds attribute names in conditions. -/
structure Resolver where
  mode : AuthenticationMode
  substitution : Condition.Mode
  deriving DecidableEq

namespace Resolver

/-- The resolver without a session store and with literal substitution. -/
def realtime : Resolver := ⟨.realtime, .literal⟩

/-- The resolver for a section of the configuration. Session mode needs a session store. -/
def ofSection (hasSessions : Bool) (c : Authorization) : Except AccessError Resolver :=
  if c.authenticationMode = .session ∧ hasSessions = false then
    .error (.configuration "session authentication mode requires a session store")
  else .ok ⟨c.authenticationMode, if c.strictSubstitution then .wordBoundary else .literal⟩

/-- The active groups of a user. -/
def groups (s : Services) (u : UserId) : Lookup (List Group) := do
  match ← remembered (·.groups.get? u) with
  | some gs => return gs
  | none =>
    let gs ← ask (.groups u) (s.backend.groups u)
    remember fun c => { c with groups := c.groups.insert u gs }
    return gs

/-- The attributes of a user, if it has any. -/
def attributes (s : Services) (u : UserId) : Lookup (Option Row) := do
  match ← remembered (·.attributes.get? u) with
  | some row => return row
  | none =>
    let key := (← ask .primaryKey s.backend.primaryKey).getD defaultPrimaryKey
    let row ← ask (.attributes u key) (s.backend.attributes u key)
    remember fun c => { c with attributes := c.attributes.insert u row }
    return row

/-- Runs the whole resolution. Attributes are only fetched for a rule with a condition, rules only when the
    groups list any. -/
def resolve (r : Resolver) (s : Services) (u : UserId) : Lookup Resolution := do
  let gs ← groups s u
  match ruleIdsOfGroups gs with
  | .error e => throw (.malformedList e)
  | .ok ids =>
    if ids.isEmpty then return .nothing
    let rules ← ask (.rules ids) (s.backend.rules ids)
    let row ← if rules.any Rule.isConditional then attributes s u else pure none
    return resolveRules r.substitution row rules

/-- The granted rules of a user from the session store. -/
def sessionGranted (s : Services) (u : UserId) : Lookup (Option GrantedRules) := do
  ask (.sessionRead (sessionKey u)) s.sessionRead
  return (← get).sessions.get? (sessionKey u)

/-- Writes the granted rules of a user to the session store. -/
def writeSession (s : Services) (u : UserId) (g : GrantedRules) : Lookup Unit := do
  ask (.sessionWrite (sessionKey u)) s.sessionWrite
  modify fun w => { w with sessions := w.sessions.insert (sessionKey u) g }

/-- Finds the granted rules of a user that are not remembered. -/
def load (r : Resolver) (s : Services) (u : UserId) : Lookup GrantedRules := do
  match r.mode with
  | .realtime => return (← r.resolve s u).granted
  | .session =>
    match ← sessionGranted s u with
    | some g => return g
    | none =>
      let g := (← r.resolve s u).granted
      writeSession s u g
      return g

/-- The granted rules of a user. -/
def granted (r : Resolver) (s : Services) (u : UserId) : Lookup GrantedRules := do
  match ← remembered (·.granted.get? u) with
  | some g => return g
  | none =>
    let g ← r.load s u
    remember fun c => { c with granted := c.granted.insert u g }
    return g

/-- Forgets a user. The session store keeps its entry. -/
def invalidate (u : UserId) : Lookup Unit := remember (·.forget u)

/-- Forgets everything. The session store keeps its entries. -/
def clear : Lookup Unit := remember fun _ => {}

end Resolver

end Entitlement
