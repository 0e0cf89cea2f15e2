import Entitlement.Condition.Evaluation
import Entitlement.Proofs.Condition.OperandCount

/-!
# `Entitlement.Proofs.Condition.Outcome` — when the evaluation of a condition fails, and how

A condition is never refused for its shape. It has no truth value in four cases only: nothing is left of it
without its spacing, its last character belongs to an operator, it has no operator, or a comparison finds fewer
than two operands (`evaluate_outcome`). The last case can be read off three numbers: the comparisons, the
combinators, and whether an `||` comes first.
-/

namespace Entitlement.Condition

open Attribute (Row)

theorem rest_eq_nil_iff {t : Tokens} :
    t.rest = [] ↔ (comparisons t.operators).length + (combinators t.operators).length = 0 := by
  rw [length_comparisons_add_combinators, Tokens.operators, List.length_map, List.length_eq_zero_iff]

theorem evaluateText_of_dangling {t : List Char} (h : t.getLast?.any isOperatorChar = true) :
    evaluateText t = .error (.danglingOperator (String.ofList t)) := if_pos h

theorem evaluateText_of_no_operator {t : List Char} (h : ¬ t.getLast?.any isOperatorChar = true)
    (hrest : (tokenize t).rest = []) : evaluateText t = .error (.noOperator (String.ofList t)) := by
  rw [evaluateText, if_neg h]
  exact if_pos hrest

/-- Otherwise the outcome is that of the reduction. -/
theorem evaluateText_of_operators {t : List Char} (h : ¬ t.getLast?.any isOperatorChar = true)
    (hrest : (tokenize t).rest ≠ []) :
    evaluateText t = (tokenize t).truth?.mapError fun o => .missingOperand o (String.ofList t) := by
  rw [evaluateText, if_neg h]
  refine (if_neg hrest).trans ?_
  cases (tokenize t).truth? <;> rfl

theorem evaluateText_eq_ok_iff {t : List Char} {b : Bool} :
    evaluateText t = .ok b ↔
      ¬ t.getLast?.any isOperatorChar = true ∧ (tokenize t).rest ≠ [] ∧ (tokenize t).truth? = .ok b := by
  by_cases hd : t.getLast?.any isOperatorChar = true
  · simp [evaluateText_of_dangling hd, hd]
  by_cases hrest : (tokenize t).rest = []
  · simp [evaluateText_of_no_operator hd hrest, hrest]
  rw [evaluateText_of_operators hd hrest]
  cases (tokenize t).truth? with
  | error o =>
    show Except.error (Failure.missingOperand o (String.ofList t)) = Except.ok b ↔ _
    simp
  | ok b' =>
    show Except.ok b' = Except.ok b ↔ _
    simp [hd, hrest]

theorem evaluate_eq_ok_iff {mode : Mode} {row : Row} {condition : String} {b : Bool} :
    evaluate mode row condition = .ok b ↔
      stripSpaces condition.toList ≠ [] ∧
        evaluateText (substitute mode row (stripSpaces condition.toList)) = .ok b := by
  unfold evaluate
  by_cases hs : stripSpaces condition.toList = []
  · simp [hs]
  · simp [hs]

/-- **The outcome of an evaluation.** With `s` the condition without its spacing, `t` what substitution makes
    of it, `c` comparisons and `k` combinators in `t`, and `l` one if an `||` comes first: an empty `s` is
    `empty`, else an operator character at the end of `t` is `danglingOperator`, else `c + k = 0` is
    `noOperator`, else `c + l > k + 1` is `missingOperand` for the first comparison that finds fewer than two
    operands, and everything else has a truth value. -/
theorem evaluate_outcome (mode : Mode) (row : Row) (condition : String) :
    let s := stripSpaces condition.toList
    let t := substitute mode row s
    let os := (tokenize t).operators
    let c := (comparisons os).length
    let k := (combinators os).length
    let l := if os.head? = some .or then 1 else 0
    let dangling := t.getLast?.any isOperatorChar = true
    let outcome := evaluate mode row condition
    (outcome = .error .empty ↔ s = []) ∧
      (outcome = .error (.danglingOperator (String.ofList t)) ↔ s ≠ [] ∧ dangling) ∧
      (outcome = .error (.noOperator (String.ofList t)) ↔ s ≠ [] ∧ ¬ dangling ∧ c + k = 0) ∧
      ((∃ o, outcome = .error (.missingOperand o (String.ofList t))) ↔
        s ≠ [] ∧ ¬ dangling ∧ c + k ≠ 0 ∧ c + l > k + 1) ∧
      (∀ o, outcome = .error (.missingOperand o (String.ofList t)) ↔
        s ≠ [] ∧ ¬ dangling ∧ c + k ≠ 0 ∧ LacksOperand true (tokenize t).operands.length os o) ∧
      ((∃ b, outcome = .ok b) ↔ s ≠ [] ∧ ¬ dangling ∧ c + k ≠ 0 ∧ ¬ c + l > k + 1) := by
  intro s t os c k l dangling outcome
  by_cases hs : s = []
  · have h : outcome = .error .empty := if_pos hs
    simp [h, hs]
  have houtcome : outcome = evaluateText t := if_neg hs
  by_cases hd : dangling
  · have h := houtcome.trans (evaluateText_of_dangling hd)
    simp [h, hs, hd]
  by_cases hnone : c + k = 0
  · have h := houtcome.trans (evaluateText_of_no_operator hd (rest_eq_nil_iff.mpr hnone))
    simp [-Nat.add_eq_zero_iff, h, hs, hd, hnone]
  have h : outcome = (tokenize t).truth?.mapError fun o => .missingOperand o (String.ofList t) :=
    houtcome.trans (evaluateText_of_operators hd (mt rest_eq_nil_iff.mp hnone))
  have hlacks : (∃ o, (tokenize t).truth? = .error o) ↔ c + l > k + 1 := exists_truth?_eq_error_iff
  have hfirst (o : Operator) :
      LacksOperand true (tokenize t).operands.length os o ↔ (tokenize t).truth? = .error o :=
    truth?_eq_error_iff.symm
  cases htruth : (tokenize t).truth? with
  | error o =>
    have hmany : c + l > k + 1 := hlacks.mp ⟨o, htruth⟩
    have h : outcome = .error (.missingOperand o (String.ofList t)) := by
      rw [h, htruth]
      rfl
    simp [-Nat.add_eq_zero_iff, -Tokens.length_operands, h, hs, hd, hnone, hmany, hfirst, htruth]
  | ok b =>
    have hfew : ¬ c + l > k + 1 := by
      intro hmany
      obtain ⟨o, ho⟩ := hlacks.mpr hmany
      simp [htruth] at ho
    have h : outcome = .ok b := by
      rw [h, htruth]
      rfl
    simp [-Nat.add_eq_zero_iff, -Tokens.length_operands, h, hs, hd, hnone, hfew, hfirst, htruth]

end Entitlement.Condition
