/-!
# `Entitlement.Text.Ranges` — code points in ranges

The properties of characters are kept as lists of ranges.

## Contents
- **`inRanges`**: membership in a list of ranges.
-/

namespace Entitlement.Text

/-- Whether a code point lies in one of a list of inclusive ranges. -/
def inRanges (ranges : List (Nat × Nat)) (n : Nat) : Bool :=
  ranges.any fun (first, last) => first ≤ n && n ≤ last

end Entitlement.Text
