import Entitlement.Rule.Granted
import Entitlement.Store.Backend

/-!
# `Entitlement.Access.Session` — granted rules kept from one check to the next

## Contents
- **`SessionStore`**: sets of granted rules under text keys.
- **`sessionKey`**: the key of a user's entry; different users have different keys.
-/

namespace Entitlement

/-- The session store: sets of granted rules by key. -/
abbrev SessionStore := Keyed String GrantedRules

/-- The key under which a user's granted rules are kept. -/
def sessionKey (u : UserId) : String := "_auth_list_" ++ u.text

theorem UserId.text_injective {u v : UserId} (h : u.text = v.text) : u = v := by
  have e : Numeral.decimalText u.value = Numeral.decimalText v.value := by
    simpa [UserId.text] using congrArg String.toList h
  have e' := congrArg Numeral.signed? e
  simp only [Numeral.signed?_decimalText, Option.some.injEq] at e'
  cases u
  cases v
  exact congrArg UserId.mk e'

/-- Different users have different keys. -/
theorem sessionKey_injective {u v : UserId} (h : sessionKey u = sessionKey v) : u = v := by
  apply UserId.text_injective
  have e := congrArg String.toList h
  simp only [sessionKey, String.toList_append, List.append_cancel_left_eq] at e
  exact String.toList_inj.mp e

end Entitlement
