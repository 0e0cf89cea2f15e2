import Entitlement.Config.Layer
import Entitlement.Numeral.Integer

/-!
# `Entitlement.Config.Environment` — the layer of the environment

A variable is named by a common stem, an underscore and the name of its field. One that is empty or is not
valid UTF-8 counts as unset.

## Contents
- **`Environment`**: the bytes of each variable.
- **`Variables`**: an environment under one stem; `text?`, `flag?`, `unsigned?`, `mode?`.
- **`Variables.layer`**: the layer, with the order in which wrong values are reported.
-/

namespace Entitlement.Config

/-- The variables of a process, as bytes. -/
abbrev Environment := String → Option ByteArray

/-- The environment as it is seen under a stem. -/
structure Variables where
  environment : Environment
  stem : String

namespace Variables

/-- The name of a variable. -/
def key (v : Variables) (field : String) : String := v.stem ++ "_" ++ field

/-- The text of a variable, unless it is unset. -/
def text? (v : Variables) (field : String) : Option String :=
  ((v.environment (v.key field)).bind String.fromUTF8?).filter (· ≠ "")

/-- Reads the text of a variable, if it is set; a fault is reported under the name of the variable. -/
def read {α : Type} (v : Variables) (field : String) (reader : String → Except String α) :
    Except Error (Option α) :=
  match v.text? field with
  | none => .ok none
  | some t =>
    match reader t with
    | .ok a => .ok (some a)
    | .error e => .error (.invalidValue (v.key field) e)

/-- The truth value of a word, in any ASCII letter case. -/
def truthWord (t : String) : Except String Bool :=
  let word := t.toList.map Char.toLower
  if word ∈ ["1", "true", "yes", "on"].map String.toList then .ok true
  else if word ∈ ["0", "false", "no", "off"].map String.toList then .ok false
  else .error ("expected a boolean, got '" ++ t ++ "'")

/-- A number from zero to a limit. -/
def unsignedText (limit : Nat) (t : String) : Except String Nat :=
  (Numeral.unsignedWithin limit t.toList).mapError Numeral.UnsignedFault.message

/-- The section on authorization. -/
def authorization (v : Variables) : Except Error AuthorizationLayer := do
  let enabled ← v.read "ENABLED" truthWord
  let mode ← v.read "AUTHENTICATION_MODE" AuthenticationMode.parse
  let strict ← v.read "STRICT_SUBSTITUTION" truthWord
  return ⟨enabled, mode, strict⟩

/-- The section on table names. -/
def tables (v : Variables) : TablesLayer where
  group := v.text? "TABLE_GROUP"
  groupAccess := v.text? "TABLE_GROUP_ACCESS"
  rule := v.text? "TABLE_RULE"
  user := v.text? "TABLE_USER"

/-- The section on the database. -/
def database (v : Variables) : Except Error DatabaseLayer := do
  let connections ← v.read "DATABASE_MAX_CONNECTIONS" (unsignedText Numeral.unsigned32)
  let timeout ← v.read "DATABASE_BUSY_TIMEOUT_MS" (unsignedText Numeral.unsigned64)
  return ⟨v.text? "DATABASE_URL", connections, timeout⟩

/-- The layer of the environment; it has all three sections. -/
def layer (v : Variables) : Except Error Layer := do
  let authorization ← v.authorization
  let database ← v.database
  return ⟨some authorization, some v.tables, some database⟩

end Variables

end Entitlement.Config
