import Entitlement.Config.Layer

/-!
# `Entitlement.Proofs.Config.Fields` — the ten fields of a configuration

The sections of a configuration differ in their types but not in how layers are laid over one another: field by
field, a layer that sets the field wins. `Field` names the ten fields, so that this is said once for all of
them (`Field.given_overlay`), and so is what a field is worth in the end (`Field.value_resolve`).

Settings are determined by their fields (`Settings.eq_of_fields`). Whether a section that sets nothing is
present is therefore not seen, and laying layers over one another is associative (`Layer.overlay_assoc`).
-/

namespace Entitlement.Config

variable {α : Type}

/-- A field of the configuration, with the type of its values. -/
inductive Field : Type → Type where
  | enabled : Field Bool
  | authenticationMode : Field AuthenticationMode
  | strictSubstitution : Field Bool
  | groupTable : Field String
  | groupAccessTable : Field String
  | ruleTable : Field String
  | userTable : Field String
  | databaseUrl : Field String
  | maxConnections : Field Nat
  | busyTimeout : Field Nat

namespace Field

/-- The value that a layer sets a field to, if it does. -/
def given : Field α → Layer → Option α
  | enabled, l => l.authorization.bind (·.enabled)
  | authenticationMode, l => l.authorization.bind (·.authenticationMode)
  | strictSubstitution, l => l.authorization.bind (·.strictSubstitution)
  | groupTable, l => l.tables.bind (·.group)
  | groupAccessTable, l => l.tables.bind (·.groupAccess)
  | ruleTable, l => l.tables.bind (·.rule)
  | userTable, l => l.tables.bind (·.user)
  | databaseUrl, l => l.database.bind (·.url)
  | maxConnections, l => l.database.bind (·.maxConnections)
  | busyTimeout, l => l.database.bind (·.busyTimeout)

/-- The value of a field in a resolved configuration. -/
def value : Field α → Settings → α
  | enabled, s => s.authorization.enabled
  | authenticationMode, s => s.authorization.authenticationMode
  | strictSubstitution, s => s.authorization.strictSubstitution
  | groupTable, s => s.tables.group
  | groupAccessTable, s => s.tables.groupAccess
  | ruleTable, s => s.tables.rule
  | userTable, s => s.tables.user
  | databaseUrl, s => s.database.url
  | maxConnections, s => s.database.maxConnections
  | busyTimeout, s => s.database.busyTimeout

end Field

/-- The configuration when nothing is set. -/
def Settings.defaults : Settings where
  authorization := ⟨true, .realtime, false⟩
  tables := ⟨"auth_group", "auth_group_access", "auth_rule", "user"⟩
  database := ⟨"sqlite:./ruleauth.db", 4, 5000⟩

/-- The defaults pass their own checks. -/
theorem Settings.validate_defaults : Settings.defaults.validate = .ok () := by rfl

/-- Settings with the same value in every field are the same. -/
theorem Settings.eq_of_fields {s s' : Settings} (h : ∀ (α : Type) (f : Field α), f.value s = f.value s') :
    s = s' := by
  obtain ⟨⟨e, m, t⟩, ⟨g, a, r, u⟩, ⟨url, c, b⟩⟩ := s
  obtain ⟨⟨e', m', t'⟩, ⟨g', a', r', u'⟩, ⟨url', c', b'⟩⟩ := s'
  obtain rfl : e = e' := h _ .enabled
  obtain rfl : m = m' := h _ .authenticationMode
  obtain rfl : t = t' := h _ .strictSubstitution
  obtain rfl : g = g' := h _ .groupTable
  obtain rfl : a = a' := h _ .groupAccessTable
  obtain rfl : r = r' := h _ .ruleTable
  obtain rfl : u = u' := h _ .userTable
  obtain rfl : url = url' := h _ .databaseUrl
  obtain rfl : c = c' := h _ .maxConnections
  obtain rfl : b = b' := h _ .busyTimeout
  rfl

/-! ## Sections -/

section Sections

variable {σ : Type} {overlay : σ → σ → σ}

/-- A field of a section, when the section may be absent on either side. -/
theorem bind_overlaySection {field : σ → Option α} (h : ∀ x y, field (overlay x y) = (field x).or (field y))
    (upper lower : Option σ) :
    (overlaySection overlay upper lower).bind field = (upper.bind field).or (lower.bind field) := by
  cases upper with
  | none => simp [overlaySection]
  | some x =>
    cases lower with
    | none => simp [overlaySection]
    | some y => simp [overlaySection, h]

theorem overlaySection_assoc (h : ∀ x y z, overlay (overlay x y) z = overlay x (overlay y z))
    (a b c : Option σ) :
    overlaySection overlay (overlaySection overlay a b) c =
      overlaySection overlay a (overlaySection overlay b c) := by
  cases a with
  | none => rfl
  | some x =>
    cases b with
    | none => rfl
    | some y =>
      cases c with
      | none => rfl
      | some z => exact congrArg some (h x y z)

end Sections

/-! ## Layers -/

namespace Field

theorem given_absent (f : Field α) : f.given .absent = none := by
  cases f <;> rfl

/-- **A field that the upper layer sets wins**, whichever of the ten it is. -/
theorem given_overlay (f : Field α) (upper lower : Layer) :
    f.given (upper.overlay lower) = (f.given upper).or (f.given lower) := by
  cases f with
  | enabled | authenticationMode | strictSubstitution => exact bind_overlaySection (fun _ _ => rfl) _ _
  | groupTable | groupAccessTable | ruleTable | userTable => exact bind_overlaySection (fun _ _ => rfl) _ _
  | databaseUrl | maxConnections | busyTimeout => exact bind_overlaySection (fun _ _ => rfl) _ _

/-- A field that is not set has its default. -/
theorem value_resolve (f : Field α) (l : Layer) :
    f.value l.resolve = (f.given l).getD (f.value .defaults) := by
  obtain ⟨authorization, tables, database⟩ := l
  cases f with
  | enabled | authenticationMode | strictSubstitution => cases authorization <;> rfl
  | groupTable | groupAccessTable | ruleTable | userTable => cases tables <;> rfl
  | databaseUrl | maxConnections | busyTimeout => cases database <;> rfl

end Field

/-- Layers that set the same fields to the same values resolve to the same configuration. -/
theorem Layer.resolve_congr {l l' : Layer} (h : ∀ (α : Type) (f : Field α), f.given l = f.given l') :
    l.resolve = l'.resolve := by
  apply Settings.eq_of_fields
  intro α f
  rw [f.value_resolve, f.value_resolve, h]

/-- The layer with every section present. -/
def Layer.filled (l : Layer) : Layer where
  authorization := some (l.authorization.getD .absent)
  tables := some (l.tables.getD .absent)
  database := some (l.database.getD .absent)

/-- A section in which nothing is set gives no field. -/
theorem Field.given_filled (f : Field α) (l : Layer) : f.given l.filled = f.given l := by
  obtain ⟨authorization, tables, database⟩ := l
  cases f with
  | enabled | authenticationMode | strictSubstitution => cases authorization <;> rfl
  | groupTable | groupAccessTable | ruleTable | userTable => cases tables <;> rfl
  | databaseUrl | maxConnections | busyTimeout => cases database <;> rfl

namespace Layer

theorem overlay_absent (l : Layer) : l.overlay absent = l := by
  obtain ⟨authorization, tables, database⟩ := l
  cases authorization <;> cases tables <;> cases database <;> rfl

/-- **Layers may be laid over one another in any grouping.** -/
theorem overlay_assoc (a b c : Layer) : (a.overlay b).overlay c = a.overlay (b.overlay c) := by
  simp only [overlay, mk.injEq]
  refine ⟨overlaySection_assoc ?_ _ _ _, overlaySection_assoc ?_ _ _ _, overlaySection_assoc ?_ _ _ _⟩
  · simp [AuthorizationLayer.overlay, Option.or_assoc]
  · simp [TablesLayer.overlay, Option.or_assoc]
  · simp [DatabaseLayer.overlay, Option.or_assoc]

end Layer

end Entitlement.Config
