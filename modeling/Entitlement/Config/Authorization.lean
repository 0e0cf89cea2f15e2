import Entitlement.Text.Blank
import Entitlement.Text.Lowercase

/-!
# `Entitlement.Config.Authorization` — the section on authorization

## Contents
- **`AuthenticationMode`**: whether granted rules are kept in the session store, with its names and codes.
- **`Authorization`**: the resolved section and its defaults.
- **`AuthorizationLayer`**: the section as one source gives it; `overlay` lays it over another, `resolve` fills
  in the defaults.
-/

namespace Entitlement.Config

/-- Where granted rules are kept between checks. -/
inductive AuthenticationMode where
  /-- In the resolver only. -/
  | realtime
  /-- Also in the session store, which is trusted on later checks. -/
  | session
  deriving DecidableEq

namespace AuthenticationMode

/-- The name of a mode. -/
def text : AuthenticationMode → String
  | realtime => "realtime"
  | session => "session"

/-- The mode that a text names, by name or by number, in any letter case and between blanks; the error is
    the wording for any other text. -/
def parse (s : String) : Except String AuthenticationMode :=
  match Text.lower (Text.trimString s) with
  | "realtime" | "1" => .ok realtime
  | "session" | "2" => .ok session
  | other => .error ("unknown authentication mode '" ++ other ++ "', expected 'realtime' or 'session'")

end AuthenticationMode

/-- The resolved section. -/
structure Authorization where
  /-- When off, every check passes. -/
  enabled : Bool
  authenticationMode : AuthenticationMode
  /-- Whether attribute names are replaced as whole identifiers only. -/
  strictSubstitution : Bool
  deriving DecidableEq

/-- The section as one source gives it; a field may be absent. -/
structure AuthorizationLayer where
  enabled : Option Bool
  authenticationMode : Option AuthenticationMode
  strictSubstitution : Option Bool
  deriving DecidableEq

namespace AuthorizationLayer

/-- The layer that sets nothing. -/
def absent : AuthorizationLayer := ⟨none, none, none⟩

/-- The layer laid over a lower one: a field that it sets wins. -/
def overlay (upper lower : AuthorizationLayer) : AuthorizationLayer where
  enabled := upper.enabled.or lower.enabled
  authenticationMode := upper.authenticationMode.or lower.authenticationMode
  strictSubstitution := upper.strictSubstitution.or lower.strictSubstitution

/-- The section with defaults for the fields that are not set. -/
def resolve (l : AuthorizationLayer) : Authorization where
  enabled := l.enabled.getD true
  authenticationMode := l.authenticationMode.getD .realtime
  strictSubstitution := l.strictSubstitution.getD false

end AuthorizationLayer

end Entitlement.Config
