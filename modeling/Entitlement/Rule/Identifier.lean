import Entitlement.Numeral.Integer

/-!
# `Entitlement.Rule.Identifier` — the keys of users, groups and rules

## Contents
- **`UserId`, `GroupId`, `RuleId`**: integers that cannot be mixed up.
- **The order of `RuleId`**, that of the integers, with its laws; sets of rules are listed in it.
-/

namespace Entitlement

/-- The key of a user. -/
structure UserId where
  value : Int
  deriving DecidableEq

/-- The key of a group. -/
structure GroupId where
  value : Int
  deriving DecidableEq

/-- The key of a rule. -/
structure RuleId where
  value : Int
  deriving DecidableEq

namespace RuleId

instance : Ord RuleId := ⟨fun a b => compare a.value b.value⟩

theorem compare_def (a b : RuleId) : compare a b = compare a.value b.value := rfl

instance : Std.TransOrd RuleId where
  eq_swap {a b} :=
    (Std.OrientedCmp.eq_swap : compare a.value b.value = (compare b.value a.value).swap)
  isLE_trans {a b c} h h' := by
    simp only [compare_def] at *
    exact Std.TransCmp.isLE_trans h h'

instance : Std.LawfulEqOrd RuleId where
  compare_self {a} := (Std.ReflCmp.compare_self : compare a.value a.value = .eq)
  eq_of_compare {a b} h := by
    obtain ⟨a⟩ := a
    obtain ⟨b⟩ := b
    exact congrArg RuleId.mk (Std.compare_eq_iff_eq.mp h)

end RuleId

/-- The text of a user's key: the decimal digits, behind a minus sign when it is negative. -/
def UserId.text (u : UserId) : String := String.ofList (Numeral.decimalText u.value)

/-- The text of a group's key. -/
def GroupId.text (g : GroupId) : String := String.ofList (Numeral.decimalText g.value)

end Entitlement
