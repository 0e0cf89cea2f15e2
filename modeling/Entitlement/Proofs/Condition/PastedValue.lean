import Entitlement.Proofs.Attribute.ValueText
import Entitlement.Proofs.Condition.AttributeNames
import Entitlement.Proofs.Condition.FormulaTruth
import Entitlement.Proofs.Condition.Spacing

/-!
# `Entitlement.Proofs.Condition.PastedValue` — one comparison of one attribute

The text of a value becomes part of the condition after the condition is stripped of spacing and before it is
scanned. Spacing inside a value therefore counts, and a value is compared as it is when no operator begins in its
text, the first character of the comparator included. Values other than texts hold neither. A text in which an
operator begins changes what the condition says (`not_forall_evaluate_comparison`).
-/

namespace Entitlement.Condition

open Attribute (Value)
open Text (isIdentifierChar)

/-- **The tokens of a comparison.** They are its operands and its comparator exactly when no operator begins in
    the left operand. -/
theorem tokenize_comparison_iff {left : List Char} {o : Comparator} {r : Word} :
    tokenize (left ++ (o.operator.symbol ++ r.text)) = ⟨left, [(o.operator, r.text)]⟩ ↔
      Inert o.operator.symbol left := by
  have hfront : Inert (o.operator.symbol ++ r.text) left ↔ Inert o.operator.symbol left :=
    inert_append_right o.symbol_ne_nil
  rw [← hfront]
  constructor
  · intro h
    refine inert_of_prefix_first ⟨[], ?_⟩
    rw [List.append_nil]
    exact (congrArg Tokens.first h).symm
  · intro h
    have hended : Ended [] := rfl
    have hscan := scan_comparator hended o r
    rw [List.append_nil] at hscan
    rw [tokenize, scan_inert h, hscan]
    simp [Tokens.pushOperand, Tokens.scan]

/-- A comparison in whose left operand no operator begins is true when it holds. -/
theorem evaluateText_comparison {left : List Char} {o : Comparator} {r : Word}
    (h : Inert o.operator.symbol left) :
    evaluateText (left ++ (o.operator.symbol ++ r.text)) = .ok (o.operator.holds left r.text) := by
  have hends : EndsInWord (left ++ (o.operator.symbol ++ r.text)) :=
    ⟨left ++ o.operator.symbol, r, (List.append_assoc _ _ _).symm⟩
  have htruth : (⟨left, [(o.operator, r.text)]⟩ : Tokens).truth? =
      .ok (o.operator.holds left r.text) := by
    cases o <;> rfl
  rw [evaluateText, hends.getLast?, tokenize_comparison_iff.mpr h]
  simp only [Bool.false_eq_true, ↓reduceIte, htruth]
  rfl

/-! ## One attribute -/

section Pasted

variable {mode : Mode} {name : String} {v : Value} {o : Comparator} {r : Word}

/-- The value stands where the name stood, and the rest of the comparison is kept. -/
theorem evaluate_pasted {condition : String} (hname : ∀ c ∈ name.toList, isIdentifierChar c = true)
    (hr : ¬ name.toList <:+: r.text)
    (hspaced : Spaced (name.toList ++ (o.operator.symbol ++ r.text)) condition.toList) :
    evaluate mode (Keyed.ofList [(name, v)]) condition =
      evaluateText (v.text ++ (o.operator.symbol ++ r.text)) := by
  have hne : name.toList ≠ [] := fun h => hr (by rw [h]; exact List.nil_infix)
  have hspacing : ∀ x ∈ Comparison.render String.toList ⟨name, o, r⟩, isSpacing x = false :=
    isSpacing_comparison fun x hx => isSpacing_of_isIdentifierChar (hname x hx)
  have hreplace : replace mode name.toList v.text (Comparison.render String.toList ⟨name, o, r⟩) =
      Comparison.render (fun n => replace mode name.toList v.text n.toList) ⟨name, o, r⟩ :=
    replace_comparison hname hr
  rw [evaluate_of_spaced hspaced hspacing (List.append_ne_nil_of_left_ne_nil hne _)]
  refine congrArg evaluateText (hreplace.trans ?_)
  rw [Comparison.render, replace_name hne]

/-- A comparison whose left operand holds no spacing, as a condition where there are no attributes. -/
theorem evaluate_empty_comparison {left : List Char} (h : ∀ x ∈ left, isSpacing x = false) :
    evaluate mode ∅ (String.ofList (left ++ (o.operator.symbol ++ r.text))) =
      evaluateText (left ++ (o.operator.symbol ++ r.text)) := by
  have hspacing : ∀ x ∈ Comparison.render id ⟨left, o, r⟩, isSpacing x = false := isSpacing_comparison h
  have hright : o.operator.symbol ++ r.text ≠ [] := List.append_ne_nil_of_left_ne_nil o.symbol_ne_nil _
  exact evaluate_empty mode hspacing (List.append_ne_nil_of_right_ne_nil _ hright)

end Pasted

/-- **The value of one attribute in one comparison.** What is scanned and reduced is the text of the value with
    the comparator and the right operand behind it. This is `evaluateText`, the evaluation behind stripping and
    pasting, so spacing in the value stays. A value that is no text, or a text without spacing, gives what
    `evaluate` gives for the pasted text and a row without attributes. A value that is no text, or in whose text no
    operator begins, is compared as it is. -/
theorem evaluate_comparison (mode : Mode) (name : String) (v : Value) (o : Comparator) (r : Word)
    (condition : String) (hname : ∀ c ∈ name.toList, isIdentifierChar c = true)
    (hr : ¬ name.toList <:+: r.text)
    (hspaced : Spaced (name.toList ++ (o.operator.symbol ++ r.text)) condition.toList) :
    evaluate mode (Keyed.ofList [(name, v)]) condition =
        evaluateText (v.text ++ (o.operator.symbol ++ r.text)) ∧
      ((∀ s, v = .string s → ∀ c ∈ s.toList, isSpacing c = false) →
        evaluate mode (Keyed.ofList [(name, v)]) condition =
          evaluate mode ∅ (String.ofList (v.text ++ (o.operator.symbol ++ r.text)))) ∧
      ((∀ s, v = .string s → Inert o.operator.symbol s.toList) →
        evaluate mode (Keyed.ofList [(name, v)]) condition = .ok (o.operator.holds v.text r.text)) := by
  rw [evaluate_pasted hname hr hspaced]
  refine ⟨rfl, fun hv => ?_, fun hv => ?_⟩
  · have hspacing : ∀ x ∈ v.text, isSpacing x = false :=
      Attribute.text_cases (fun ds h x hx => Attribute.isSpacing_of_isNumberChar (h x hx)) hv
    exact (evaluate_empty_comparison hspacing).symm
  · have hinert : Inert o.operator.symbol v.text :=
      Attribute.text_cases
        (fun ds h => inert_of_plain fun x hx => Attribute.isOperatorChar_of_isNumberChar (h x hx)) hv
    exact evaluateText_comparison hinert

/-- A value with signs of its own in it, which may as well stand in the condition, and one that is empty. -/
theorem evaluate_comparison_two_values :
    evaluate .literal (Keyed.ofList [("a", .string "x=&y")]) "a != 2" = .ok true ∧
      evaluate .literal (Keyed.ofList [("a", .string "x=&y")]) "a != 2" = evaluate .literal ∅ "x=&y!=2" ∧
      evaluate .wordBoundary (Keyed.ofList [("a", .null)]) "a<2" = .ok true := by
  let r : Word := .ofString "2" (by decide)
  have hname : ∀ c ∈ "a".toList, isIdentifierChar c = true := List.all_eq_true.mp (by decide)
  have hr : ¬ "a".toList <:+: r.text := by
    rw [← occursIn_iff]
    decide
  obtain ⟨-, hpasted, htext⟩ := evaluate_comparison .literal "a" (.string "x=&y") .ne r "a != 2" hname hr
    (spaced_stripSpaces "a != 2".toList)
  obtain ⟨-, -, hnull⟩ := evaluate_comparison .wordBoundary "a" .null .lt r "a<2" hname hr
    (spaced_stripSpaces "a<2".toList)
  have hcondition :
      String.ofList ((Value.string "x=&y").text ++ (Comparator.ne.operator.symbol ++ r.text)) = "x=&y!=2" := by
    decide
  rw [hcondition] at hpasted
  refine ⟨(htext ?_).trans ?_, hpasted ?_, (hnull ?_).trans ?_⟩
  · rintro s ⟨⟩
    decide
  · exact congrArg Except.ok (by decide +kernel)
  · rintro s ⟨⟩
    exact forall_mem_of_all (by decide)
  · rintro s ⟨⟩
  · exact congrArg Except.ok (by decide +kernel)

/-- The space of a value stays, and that of a condition does not. -/
example : evaluate .literal (Keyed.ofList [("a", .string "x y")]) "a==xy" = .ok false := by rfl

example : evaluate .literal ∅ "x y==xy" = .ok true := by rfl

/-- **Texts are not only compared.** A text with an operator in it can make an equation true that it does not
    satisfy. -/
theorem not_forall_evaluate_comparison :
    ¬ ∀ (mode : Mode) (name : String) (v : Value) (o : Comparator) (r : Word),
      (∀ c ∈ name.toList, isIdentifierChar c = true) → ¬ name.toList <:+: r.text →
      evaluate mode (Keyed.ofList [(name, v)])
        (String.ofList (name.toList ++ (o.operator.symbol ++ r.text))) =
          .ok (o.operator.holds v.text r.text) := by
  intro h
  let r : Word := .ofString "2" (by decide)
  have hname : ∀ c ∈ "a".toList, isIdentifierChar c = true := List.all_eq_true.mp (by decide)
  have hr : ¬ "a".toList <:+: r.text := by
    rw [← occursIn_iff]
    decide
  have hfalse := h .literal "a" (.string "1||1") .eq r hname hr
  have hcondition :
      String.ofList ("a".toList ++ (Comparator.eq.operator.symbol ++ r.text)) = "a==2" := by decide
  -- with the value in it the condition reads `1||1==2`, and its bare operand alone makes it true
  have htrue : evaluate .literal (Keyed.ofList [("a", .string "1||1")]) "a==2" = .ok true := rfl
  have hcompare : Comparator.eq.operator.holds (Value.string "1||1").text r.text = false := by
    decide +kernel
  rw [hcondition, htrue, hcompare] at hfalse
  exact Bool.noConfusion (Except.ok.inj hfalse)

end Entitlement.Condition
