import Entitlement.Collection.Ascending
import Entitlement.Condition.Evaluation
import Entitlement.Rule.Basic
import Entitlement.Text.Lowercase

/-!
# `Entitlement.Rule.Granted` — which of a user's rules are granted

## Contents
- **`GrantedRules`**: the set of the lower-cased names of granted rules, and `grant`, which adds one.
- **`Resolution`**: the granted rules together with the rules whose condition could not be evaluated.
- **`Rule.outcome`**: whether one rule is granted; `resolveRules`, all of them in order.
-/

namespace Entitlement

open Condition
open Attribute (Row)

/-- The lower-cased names of granted rules. -/
abbrev GrantedRules := Ascending String

/-- Adds the name of a rule, in lower case. -/
def GrantedRules.grant (g : GrantedRules) (name : String) : GrantedRules :=
  Ascending.insert g (Text.lower name)

/-- The set of several rule names, each in lower case. -/
def GrantedRules.ofNames (names : List String) : GrantedRules :=
  names.foldl GrantedRules.grant ∅

@[simp] theorem GrantedRules.mem_grant {g : GrantedRules} {name n : String} :
    n ∈ g.grant name ↔ n = Text.lower name ∨ n ∈ g := Ascending.mem_insert

/-- A rule that is not granted because its condition has no truth value. -/
structure ConditionFailure where
  rule : String
  failure : Failure
  deriving DecidableEq

/-- The outcome of resolving rules: the granted ones, and the failures in order. -/
structure Resolution where
  granted : GrantedRules
  failures : List ConditionFailure
  deriving DecidableEq

/-- Nothing granted and nothing failed. -/
def Resolution.nothing : Resolution := ⟨∅, []⟩

/-- Whether a rule is granted to a user with a row of attributes, or without one. -/
def Rule.outcome (mode : Mode) (row : Option Row) (r : Rule) : Except Failure Bool :=
  if r.isConditional then
    match row with
    | some row => evaluate mode row r.condition
    | none => .error (.missingAttributes r.condition)
  else .ok true

/-- The resolution with the outcome of one more rule. -/
def Resolution.add (mode : Mode) (row : Option Row) (acc : Resolution) (r : Rule) : Resolution :=
  match r.outcome mode row with
  | .ok true => { acc with granted := acc.granted.grant r.name }
  | .ok false => acc
  | .error e => { acc with failures := acc.failures ++ [⟨r.name, e⟩] }

/-- The resolution of a list of rules for a user with a row of attributes, or without one. -/
def resolveRules (mode : Mode) (row : Option Row) (rules : List Rule) : Resolution :=
  rules.foldl (Resolution.add mode row) .nothing

end Entitlement
