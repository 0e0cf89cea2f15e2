import Entitlement.Config.Layer
import Entitlement.Toml.Document

/-!
# `Entitlement.Config.Document` — the layer of a TOML document

A section is a table of its fields, or an array of their values in a fixed order. Keys and elements beyond the
known fields are ignored. A moment in the place of a section is a section without fields. Sections and fields
are read in the order of the document, and the first fault decides.

## Contents
- **Fields**: `asBoolean`, `asString`, `asUnsigned`, `asMode`.
- **`readSection`**: a section, given what each field does to it.
- **`Layer.ofText`**: the layer of a text.
-/

namespace Entitlement.Config

open Toml (Node)

/-! ## Fields -/

/-- A field that is on or off. -/
def asBoolean : Node → Except TomlFault Bool
  | .boolean b => .ok b
  | _ => .error .malformed

/-- A field that is a text. -/
def asString : Node → Except TomlFault String
  | .string s => .ok s
  | _ => .error .malformed

/-- A field that is a number from zero to a limit. -/
def asUnsigned (limit : Nat) : Node → Except TomlFault Nat
  | .integer i => if 0 ≤ i ∧ i ≤ limit then .ok i.toNat else .error .malformed
  | _ => .error .malformed

/-- The authentication mode, by name or by number. -/
def asMode : Node → Except TomlFault AuthenticationMode
  | .string s => (AuthenticationMode.parse s).mapError .unknownMode
  | .integer i =>
    (AuthenticationMode.parse (String.ofList (Numeral.decimalText i))).mapError .unknownMode
  | _ => .error .malformed

/-! ## Sections -/

/-- The fields of a section in their fixed order, each with its effect on the section. -/
abbrev Fields (α : Type) := List (String × (α → Node → Except TomlFault α))

/-- A section as a table: the entries in order, those of unknown keys ignored. -/
def readEntries {α : Type} (fields : Fields α) (start : α) (es : Toml.Entries) :
    Except TomlFault α :=
  es.foldlM (fun acc (key, n) =>
    match fields.lookup key with
    | some field => field acc n
    | none => .ok acc) start

/-- A section as an array: the elements go to the fields in their fixed order, surplus ones are ignored. -/
def readElements {α : Type} (fields : Fields α) (start : α) (ns : List Node) : Except TomlFault α :=
  (fields.zip ns).foldlM (fun acc ((_, field), n) => field acc n) start

/-- A section. -/
def readSection {α : Type} (fields : Fields α) (absent : α) : Node → Except TomlFault α
  | .table _ es => readEntries fields absent es
  | .array ns => readElements fields absent ns
  | .tables es => readElements fields absent (es.map (Node.table .header))
  | .moment => .ok absent
  | _ => .error .malformed

/-- The fields of the section on authorization. -/
def authorizationFields : Fields AuthorizationLayer :=
  [("enabled", fun l n => do return { l with enabled := some (← asBoolean n) }),
    ("authentication_mode", fun l n => do return { l with authenticationMode := some (← asMode n) }),
    ("strict_substitution", fun l n => do return { l with strictSubstitution := some (← asBoolean n) })]

/-- The fields of the section on table names. -/
def tablesFields : Fields TablesLayer :=
  [("group_table", fun l n => do return { l with group := some (← asString n) }),
    ("group_access_table", fun l n => do return { l with groupAccess := some (← asString n) }),
    ("rule_table", fun l n => do return { l with rule := some (← asString n) }),
    ("user_table", fun l n => do return { l with user := some (← asString n) })]

/-- The fields of the section on the database. -/
def databaseFields : Fields DatabaseLayer :=
  [("url", fun l n => do return { l with url := some (← asString n) }),
    ("max_connections", fun l n => do
      return { l with maxConnections := some (← asUnsigned Numeral.unsigned32 n) }),
    ("busy_timeout_ms", fun l n => do
      return { l with busyTimeout := some (← asUnsigned Numeral.unsigned64 n) })]

/-- The sections of a document, each with its effect on the layer. -/
def layerFields : Fields Layer :=
  [("authorization", fun l n => do
      return { l with authorization := some (← readSection authorizationFields .absent n) }),
    ("tables", fun l n => do return { l with tables := some (← readSection tablesFields .absent n) }),
    ("database", fun l n => do
      return { l with database := some (← readSection databaseFields .absent n) })]

/-- The layer of a text. -/
def Layer.ofText (text : String) : Except TomlFault Layer :=
  match Toml.parse? text.toList with
  | some es => readEntries layerFields .absent es
  | none => .error .malformed

end Entitlement.Config
