import Entitlement.Access.Resolver
import Entitlement.Rule.Request

/-!
# `Entitlement.Access.Checker` — may this user use these rules?

## Contents
- **`Checker`**: a resolver that can be switched off; `realtime`, `ofSection`.
- **`check`, `checkText`**: the decision, with the relation given or still a word.
- **`Operation`, `Answer`, `perform`**: all operations of a checker under one type, for runs of them.
-/

namespace Entitlement

open Attribute (Row)

/-- A resolver, and whether checks consult it. -/
structure Checker where
  enabled : Bool
  resolver : Resolver
  deriving DecidableEq

namespace Checker

/-- The checker that is on, without a session store and with literal substitution. -/
def realtime : Checker := ⟨true, .realtime⟩

/-- The checker for a section of the configuration. -/
def ofSection (hasSessions : Bool) (c : Config.Authorization) : Except AccessError Checker :=
  (Resolver.ofSection hasSessions c).map fun r => ⟨c.enabled, r⟩

/-- Whether a user may use the requested rules. A checker that is off allows everything and asks nothing. -/
def check (c : Checker) (s : Services) (names : RequestedNames) (u : UserId) (r : Relation) :
    Lookup Bool := do
  if c.enabled then return r.satisfied (← c.resolver.granted s u) names.normalize
  else return true

/-- The same with the relation as a word, which is read before anything is asked. -/
def checkText (c : Checker) (s : Services) (names : RequestedNames) (u : UserId) (relation : String) :
    Lookup Bool := do
  if c.enabled then
    match Relation.parse? relation with
    | some r => c.check s names u r
    | none => throw (.invalidRelation relation)
  else return true

end Checker

/-! ## Operations -/

/-- What can be asked of a checker and its resolver. -/
inductive Operation where
  | granted (u : UserId)
  | resolve (u : UserId)
  | groups (u : UserId)
  | attributes (u : UserId)
  | check (names : RequestedNames) (u : UserId) (r : Relation)
  | checkText (names : RequestedNames) (u : UserId) (relation : String)
  | invalidate (u : UserId)
  | clear
  deriving DecidableEq

/-- What an operation gives back. -/
inductive Answer where
  | granted (g : GrantedRules)
  | resolution (r : Resolution)
  | groups (gs : List Group)
  | attributes (row : Option Row)
  | decision (b : Bool)
  | done
  deriving DecidableEq

/-- Performs an operation. -/
def Checker.perform (c : Checker) (s : Services) : Operation → Lookup Answer
  | .granted u => return .granted (← c.resolver.granted s u)
  | .resolve u => return .resolution (← c.resolver.resolve s u)
  | .groups u => return .groups (← Resolver.groups s u)
  | .attributes u => return .attributes (← Resolver.attributes s u)
  | .check names u r => return .decision (← c.check s names u r)
  | .checkText names u relation => return .decision (← c.checkText s names u relation)
  | .invalidate u => do Resolver.invalidate u; return .done
  | .clear => do Resolver.clear; return .done

end Entitlement
