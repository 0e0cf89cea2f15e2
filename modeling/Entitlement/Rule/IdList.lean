import Entitlement.Collection.Ascending
import Entitlement.Rule.Basic
import Entitlement.Text.Blank

/-!
# `Entitlement.Rule.IdList` — lists of rule keys

A group names its rules in one text: integers separated by commas. Commas at the ends, blanks around an integer
and segments of blanks only do not count. Anything else is reported by its segment.

## Contents
- **`segments`**: the trimmed segments that are not empty.
- **`parseIds`**: the set of the keys, or the first segment that is not an integer of 64 bits.
- **`Group.ruleIds`**: the same for a group.
-/

namespace Entitlement

open Text

/-- The segments of a list that count, trimmed, in order. -/
def segments (s : List Char) : List (List Char) :=
  (((trimWhere (· = ',') s).splitOn ',').map trim).filter (· ≠ [])

/-- The key that a segment writes. -/
def RuleId.ofSegment (s : List Char) : Except String RuleId :=
  match Numeral.signedWithin? Numeral.int64 s with
  | some i => .ok ⟨i⟩
  | none => .error (String.ofList s)

/-- The keys of a list, or the first segment that is no key. -/
def parseIds (list : String) : Except String (Ascending RuleId) :=
  ((segments list.toList).mapM RuleId.ofSegment).map Ascending.ofList

/-- A group whose list has a segment that is no key. -/
structure MalformedList where
  group : GroupId
  segment : String
  deriving DecidableEq

/-- The keys of a group's rules. -/
def Group.ruleIds (g : Group) : Except MalformedList (Ascending RuleId) :=
  (parseIds g.rules).mapError fun segment => ⟨g.id, segment⟩

/-- The keys of the rules of several groups; the first group with a malformed list is the error. -/
def ruleIdsOfGroups : List Group → Except MalformedList (Ascending RuleId)
  | [] => .ok ∅
  | g :: rest => do
    let ids ← g.ruleIds
    return ids.union (← ruleIdsOfGroups rest)

end Entitlement
