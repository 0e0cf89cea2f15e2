import Entitlement.Rule.Granted

/-!
# `Entitlement.Proofs.Rule.Outcomes` — the outcome of a list of rules

Rules do not influence each other: a name is granted when some rule of that name has a true condition
(`mem_granted_resolveRules`), and the failures are those of the single rules, in order
(`failures_resolveRules`). A row of attributes only matters to rules with a condition.
-/

namespace Entitlement

open Condition
open Attribute (Row)

variable {mode : Mode} {row : Option Row}

/-! ## One rule -/

theorem Rule.isConditional_iff {r : Rule} : r.isConditional = true ↔ r.condition ≠ "" := by
  unfold Rule.isConditional
  rw [decide_eq_true_eq]

theorem Rule.outcome_of_condition {r : Rule} (h : r.condition ≠ "") :
    r.outcome mode row =
      match row with
      | some row => evaluate mode row r.condition
      | none => .error (.missingAttributes r.condition) := by
  unfold Rule.outcome
  exact if_pos (Rule.isConditional_iff.mpr h)

theorem Rule.outcome_of_no_condition {r : Rule} (h : r.condition = "") :
    r.outcome mode row = .ok true := by
  unfold Rule.outcome
  exact if_neg fun hc => Rule.isConditional_iff.mp hc h

/-- A rule is granted without a condition, or when the condition is true of the row. -/
theorem Rule.outcome_eq_true_iff {r : Rule} :
    r.outcome mode row = .ok true ↔
      r.condition = "" ∨ ∃ a, row = some a ∧ evaluate mode a r.condition = .ok true := by
  by_cases h : r.condition = ""
  · rw [Rule.outcome_of_no_condition h]
    exact ⟨fun _ => .inl h, fun _ => rfl⟩
  · rw [Rule.outcome_of_condition h]
    cases row with
    | none => simp [h]
    | some a => simp [h]

/-- A rule fails when its condition cannot be evaluated over the row, or there is no row. -/
theorem Rule.outcome_eq_error_iff {r : Rule} {e : Failure} :
    r.outcome mode row = .error e ↔
      r.condition ≠ "" ∧ ((∃ a, row = some a ∧ evaluate mode a r.condition = .error e) ∨
        (row = none ∧ e = .missingAttributes r.condition)) := by
  by_cases h : r.condition = ""
  · rw [Rule.outcome_of_no_condition h]
    constructor
    · intro he
      cases he
    · rintro ⟨hne, -⟩
      exact absurd h hne
  · rw [Rule.outcome_of_condition h]
    cases row with
    | none => simp [h, eq_comm]
    | some a => simp [h]

/-- Why a rule failed, if it did. -/
def Rule.failure? (mode : Mode) (row : Option Row) (r : Rule) : Option Failure :=
  match r.outcome mode row with
  | .ok _ => none
  | .error e => some e

theorem Rule.failure?_eq_some_iff {r : Rule} {e : Failure} :
    r.failure? mode row = some e ↔ r.outcome mode row = .error e := by
  unfold Rule.failure?
  cases r.outcome mode row with
  | ok b => simp
  | error e' => simp

/-! ## Several rules -/

theorem mem_granted_foldl {rules : List Rule} {acc : Resolution} {n : String} :
    n ∈ (rules.foldl (Resolution.add mode row) acc).granted ↔
      n ∈ acc.granted ∨ ∃ r ∈ rules, r.outcome mode row = .ok true ∧ n = Text.lower r.name := by
  induction rules generalizing acc with
  | nil => simp
  | cons r rules ih =>
    have hadd : n ∈ (acc.add mode row r).granted ↔
        n ∈ acc.granted ∨ r.outcome mode row = .ok true ∧ n = Text.lower r.name := by
      unfold Resolution.add
      cases r.outcome mode row with
      | error e => simp
      | ok b =>
        cases b with
        | false => simp
        | true =>
          rw [GrantedRules.mem_grant]
          simp [or_comm]
    rw [List.foldl_cons, ih, hadd, or_assoc]
    simp only [List.mem_cons, exists_eq_or_imp]

theorem failures_foldl {rules : List Rule} {acc : Resolution} :
    (rules.foldl (Resolution.add mode row) acc).failures =
      acc.failures ++ rules.filterMap fun r => (r.failure? mode row).map (ConditionFailure.mk r.name) := by
  induction rules generalizing acc with
  | nil => simp
  | cons r rules ih =>
    rw [List.foldl_cons, ih, List.filterMap_cons]
    unfold Resolution.add Rule.failure?
    cases r.outcome mode row with
    | error e => simp
    | ok b => cases b <;> rfl

/-- **Granted names.** -/
theorem mem_granted_resolveRules {rules : List Rule} {n : String} :
    n ∈ (resolveRules mode row rules).granted ↔
      ∃ r ∈ rules, r.outcome mode row = .ok true ∧ n = Text.lower r.name := by
  rw [resolveRules, mem_granted_foldl]
  exact or_iff_right (Ascending.not_mem_empty n)

/-- **Failures.** -/
theorem failures_resolveRules {rules : List Rule} :
    (resolveRules mode row rules).failures =
      rules.filterMap fun r => (r.failure? mode row).map (ConditionFailure.mk r.name) :=
  failures_foldl

/-- A row matters as far as it decides outcomes. -/
theorem resolveRules_congr {row' : Option Row} {rules : List Rule}
    (h : ∀ r ∈ rules, r.outcome mode row = r.outcome mode row') :
    resolveRules mode row rules = resolveRules mode row' rules := by
  unfold resolveRules
  generalize Resolution.nothing = acc
  induction rules generalizing acc with
  | nil => rfl
  | cons r rules ih =>
    have hadd : acc.add mode row r = acc.add mode row' r := by
      unfold Resolution.add
      rw [h r List.mem_cons_self]
    rw [List.foldl_cons, List.foldl_cons, hadd]
    exact ih (fun r' hr' => h r' (List.mem_cons_of_mem r hr')) _

/-- Without conditions the row does not matter. -/
theorem resolveRules_of_unconditional {rules : List Rule} (h : rules.any Rule.isConditional = false)
    (row row' : Option Row) : resolveRules mode row rules = resolveRules mode row' rules := by
  refine resolveRules_congr fun r hr => ?_
  have hc : ¬ r.isConditional = true := List.any_eq_false.mp h r hr
  rw [Rule.isConditional_iff] at hc
  have hnone : r.condition = "" := Decidable.not_not.mp hc
  rw [Rule.outcome_of_no_condition hnone, Rule.outcome_of_no_condition hnone]

end Entitlement
