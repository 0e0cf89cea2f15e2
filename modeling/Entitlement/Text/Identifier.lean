/-!
# `Entitlement.Text.Identifier` — identifiers

## Contents
- **`isIdentifierChar`**: ASCII letters, digits and the underscore.
- **`isIdentifier`**: a text of them that is not empty and does not begin with a digit. Such a name can stand
  in a query as it is.
-/

namespace Entitlement.Text

/-- Whether a character can stand in an identifier. -/
def isIdentifierChar (c : Char) : Bool := c.isAlphanum || c == '_'

/-- Whether a text is an identifier. -/
def isIdentifier (s : List Char) : Bool :=
  s.head?.any (fun c => c.isAlpha || c == '_') && s.all isIdentifierChar

end Entitlement.Text
