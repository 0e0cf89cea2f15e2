import Entitlement.Config.Authorization
import Entitlement.Config.Database
import Entitlement.Config.Tables

/-!
# `Entitlement.Config.Layer` — all sections as one source gives them

## Contents
- **`Layer`**: three sections, each of which may be absent; `overlay` lays one layer over another.
- **`Settings`**: the resolved configuration, and `Layer.resolve`.
- **`Contribution`, `stack`**: layers with their precedence, laid over one another in ascending order, resolved
  and validated.
-/

namespace Entitlement.Config

/-- The configuration as one source gives it. -/
structure Layer where
  authorization : Option AuthorizationLayer
  tables : Option TablesLayer
  database : Option DatabaseLayer
  deriving DecidableEq

/-- The resolved configuration. -/
structure Settings where
  authorization : Authorization
  tables : Tables
  database : Database
  deriving DecidableEq

/-- One of two sections laid over the other, where either may be absent. -/
def overlaySection {α : Type} (overlay : α → α → α) : Option α → Option α → Option α
  | some upper, some lower => some (overlay upper lower)
  | some upper, none => some upper
  | none, lower => lower

namespace Layer

/-- The layer that sets nothing. -/
def absent : Layer := ⟨none, none, none⟩

/-- The layer laid over a lower one, section by section. -/
def overlay (upper lower : Layer) : Layer where
  authorization := overlaySection AuthorizationLayer.overlay upper.authorization lower.authorization
  tables := overlaySection TablesLayer.overlay upper.tables lower.tables
  database := overlaySection DatabaseLayer.overlay upper.database lower.database

/-- The configuration with defaults for all that is not set. -/
def resolve (l : Layer) : Settings where
  authorization := (l.authorization.getD .absent).resolve
  tables := (l.tables.getD .absent).resolve
  database := (l.database.getD .absent).resolve

end Layer

/-- Checks the table names, then the database. -/
def Settings.validate (s : Settings) : Except Violation Unit := do
  s.tables.validate
  s.database.validate

/-! ## Stacking -/

/-- What one source contributes: a layer, or the reason why there is none. -/
structure Contribution where
  precedence : Nat
  outcome : Except Error Layer

/-- Contributions in ascending precedence; those of equal precedence stay in order. -/
def inPrecedence (cs : List Contribution) : List Contribution :=
  cs.mergeSort fun a b => a.precedence ≤ b.precedence

/-- The layers laid over one another, each over those before it; the first failure ends it. -/
def layered (base : Layer) : List Contribution → Except Error Layer
  | [] => .ok base
  | c :: rest => do
    let layer ← c.outcome
    layered (layer.overlay base) rest

/-- The configuration that sources make together: the higher precedence wins, and of equal ones the later. -/
def stack (cs : List Contribution) : Except Error Settings := do
  let settings := (← layered .absent (inPrecedence cs)).resolve
  settings.validate.mapError .validation
  return settings

end Entitlement.Config
