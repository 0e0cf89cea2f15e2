import Entitlement.Rule.Granted

/-!
# `Entitlement.Rule.Request` — what a check asks for

## Contents
- **`RequestedNames`**: rule names as one delimited text or as a list; `normalize`.
- **`Relation`**: whether any or all of the names are needed, and `Relation.parse?`.
- **`Relation.satisfied`**: the decision, given the granted rules.
-/

namespace Entitlement

/-- The rule names a check asks for. A delimited text is put into lower case and split at commas; a list is
    taken as it stands, so that its names only match granted names in their lower-cased spelling. -/
inductive RequestedNames where
  | delimited (s : String)
  | list (names : List String)
  deriving DecidableEq

/-- The requested names one by one. -/
def RequestedNames.normalize : RequestedNames → List String
  | .delimited s => ((Text.lowercase s.toList).splitOn ',').map String.ofList
  | .list names => names

/-- How the requested names combine. -/
inductive Relation where
  /-- Any one of them suffices. -/
  | or
  /-- All of them are needed. -/
  | and
  deriving DecidableEq

/-- The relation that a word stands for, in any letter case. -/
def Relation.parse? (s : String) : Option Relation :=
  match Text.lower s with
  | "or" => some .or
  | "and" => some .and
  | _ => none

/-- How a relation is written. -/
def Relation.text : Relation → String
  | .or => "or"
  | .and => "and"

/-- Whether the granted rules satisfy a request. -/
def Relation.satisfied (r : Relation) (granted : GrantedRules) (requested : List String) : Bool :=
  match r with
  | .or => requested.any granted.contains
  | .and => requested.all granted.contains

end Entitlement
