import Entitlement.Attribute.Value
import Entitlement.Collection.Keyed

/-!
# `Entitlement.Attribute.Row` — one user's attributes

A row lists the attributes of a user in the order of the columns they come from. The order matters:
substitution walks it from front to back. A name that is written again keeps its place and takes the new value.

## Contents
- **`Row`**: values by name; its operations are those of `Keyed`.
-/

namespace Entitlement.Attribute

/-- The attributes of a user, by name, in order. -/
abbrev Row := Keyed String Value

end Entitlement.Attribute
