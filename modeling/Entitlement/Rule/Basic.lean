import Entitlement.Rule.Identifier

/-!
# `Entitlement.Rule.Basic` — rules and the groups that list them

## Contents
- **`Rule`**: a name that can be granted, and the condition for it; `isConditional`.
- **`Group`**: a set of users' common rules, as the text of a list of rule keys.
-/

namespace Entitlement

/-- A rule: a name that is granted to the members of a group, under a condition. An empty condition always
    holds; one of blanks only is a condition like any other. -/
structure Rule where
  id : RuleId
  name : String
  condition : String
  deriving DecidableEq

/-- Whether a rule has a condition. -/
def Rule.isConditional (r : Rule) : Bool := r.condition ≠ ""

/-- A group and its list of rules, as text. -/
structure Group where
  id : GroupId
  title : String
  rules : String
  deriving DecidableEq

end Entitlement
