import Entitlement.Config.Layer

/-!
# `Entitlement.Proofs.Config.Violations` — all that is wrong with a configuration

The check of a configuration stops at the first thing that is wrong. What is wrong can be listed without stopping,
in a fixed order (`Settings.violations`), and then the check reports the first of the list
(`Settings.validate_eq`).
-/

namespace Entitlement.Config

/-- All that is wrong with a configuration, in the order in which it is reported. -/
def Settings.violations (s : Settings) : List Violation :=
  ([("tables.group_table", s.tables.group), ("tables.group_access_table", s.tables.groupAccess),
      ("tables.rule_table", s.tables.rule), ("tables.user_table", s.tables.user)].flatMap fun (key, name) =>
    if Text.isIdentifier name.toList then [] else [.tableName key name]) ++
  ((if "sqlite:".toList <+: s.database.url.toList then [] else [.databaseUrl s.database.url]) ++
    if s.database.maxConnections = 0 then [.noConnections] else [])

/-- The first violation of a list, if there is one, as an error. -/
def report : List Violation → Except Violation Unit
  | [] => .ok ()
  | v :: _ => .error v

theorem report_append (vs vs' : List Violation) : report (vs ++ vs') = (report vs).bind fun _ => report vs' := by
  cases vs <;> rfl

/-- The check of the table names finds the first one that is no identifier. -/
theorem report_names (names : List (String × String)) :
    (match names.find? fun (_, name) => !Text.isIdentifier name.toList with
      | some (key, name) => .error (.tableName key name)
      | none => .ok ()) =
    report (names.flatMap fun (key, name) =>
      if Text.isIdentifier name.toList then [] else [.tableName key name]) := by
  induction names with
  | nil => rfl
  | cons e names ih =>
    obtain ⟨key, name⟩ := e
    rw [List.find?_cons, List.flatMap_cons]
    cases h : Text.isIdentifier name.toList with
    | true => simpa [h] using ih
    | false => simp [h, report]

theorem Database.validate_eq (d : Database) :
    d.validate = report ((if "sqlite:".toList <+: d.url.toList then [] else [.databaseUrl d.url]) ++
      if d.maxConnections = 0 then [.noConnections] else []) := by
  unfold Database.validate
  by_cases hurl : "sqlite:".toList <+: d.url.toList
  · rw [if_pos hurl, List.isPrefixOf_iff_prefix.mpr hurl]
    by_cases h : d.maxConnections = 0
    · rw [if_pos h, if_pos h]
      rfl
    · rw [if_neg h, if_neg h]
      rfl
  · have hnot : "sqlite:".toList.isPrefixOf d.url.toList = false := by
      rw [Bool.eq_false_iff]
      exact fun h => hurl (List.isPrefixOf_iff_prefix.mp h)
    rw [if_neg hurl, hnot]
    rfl

/-- **The first violation** is the error of the check. -/
theorem Settings.validate_eq (s : Settings) : s.validate = report s.violations := by
  unfold Settings.violations
  rw [report_append, ← report_names, ← Database.validate_eq]
  rfl

end Entitlement.Config
