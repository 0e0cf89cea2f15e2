import Entitlement.Proofs.Condition.FormulaTruth
import Entitlement.Proofs.Condition.Pasting
import Entitlement.Proofs.Condition.Spacing

/-!
# `Entitlement.Proofs.Condition.Precedence` — `&&` binds tighter than `||`

There is no parser: the precedence of `&&` comes out of a queue of operands and a loop over truth values. For a
condition that is written as comparisons joined by `&&` and `||`, with or without a bare operand at either end,
the evaluation is the disjunction of conjunctions that the condition reads as, and never an error
(`evaluate_formula`). Spacing may stand anywhere in the condition, also inside operators.
-/

namespace Entitlement.Condition

open Attribute (Row)

/-- Operands that are words do not clash with anything. -/
theorem Link.clashes_word (l : Link Word) : l.clashes Word.text = false := by
  have h : l.2.left.text.isEmpty = false := by
    rw [List.isEmpty_eq_false_iff]
    exact l.2.left.ne_nil
  rw [Link.clashes, h, Bool.false_and]

/-- **`&&` binds tighter than `||`.** A condition that writes a disjunction of conjunctions over words, with
    spacing anywhere and with or without a bare operand at either end, is true exactly when one of the
    conjunctions is or one of the bare operands is. -/
theorem evaluate_formula (mode : Mode) (row : Row) (f : Formula Word) (condition : String)
    (hspaced : Spaced (f.render Word.text) condition.toList)
    (hrow : ∀ n ∈ row.keys, n ≠ "" → ¬ n.toList <:+: stripSpaces condition.toList) :
    ∃ b, evaluate mode row condition = .ok b ∧
      (b = true ↔
        (∃ k ∈ f.body.conjunctions, ∀ c ∈ k.comparisons,
          c.comparator.operator.holds c.left.text c.right.text = true) ∨
        (∃ w, f.front = some w ∧ truthy w.text = true) ∨
        (∃ w, f.back = some w ∧ truthy w.text = true)) := by
  have hspacing : ∀ c ∈ f.render Word.text, isSpacing c = false :=
    isSpacing_formula fun c _ x hx => (c.left.plain x hx).1
  rw [stripSpaces_of_spaced hspaced hspacing] at hrow
  refine ⟨f.holds Word.text, ?_, ?_⟩
  · rw [evaluate_of_spaced hspaced hspacing (endsInWord_formula f).ne_nil, substitute_of_absent hrow]
    exact Formula.evaluateText_formula (fun c _ x hx => (c.left.plain x hx).2)
      (fun l _ => l.clashes_word)
  · rw [Formula.holds, Bool.or_eq_true, Bool.or_eq_true, Disjunction.holds_iff, Option.any_eq_true,
      Option.any_eq_true]
    -- the formula lists the truth values in the order they are written, the statement by their kind
    exact or_left_comm

/-- `0||2>10&&b==b||10>=9&&b!=c||0` -/
private def twoConjunctions : Formula Word where
  front := some (.ofString "0" (by decide))
  body :=
    ⟨⟨⟨.ofString "2" (by decide), .gt, .ofString "10" (by decide)⟩,
        [⟨.ofString "b" (by decide), .eq, .ofString "b" (by decide)⟩]⟩,
      [⟨⟨.ofString "10" (by decide), .ge, .ofString "9" (by decide)⟩,
        [⟨.ofString "b" (by decide), .ne, .ofString "c" (by decide)⟩]⟩]⟩
  back := some (.ofString "0" (by decide))

/-- The second conjunction alone is true. -/
theorem evaluate_formula_two_conjunctions :
    evaluate .wordBoundary (Keyed.ofList [("name", .string "1||1"), ("", .integer 7)])
      "0 || 2>10 && b==\tb |\n| 10>=9 && b! =c || 0" = .ok true := by
  obtain ⟨b, hb, h⟩ := evaluate_formula .wordBoundary
    (Keyed.ofList [("name", .string "1||1"), ("", .integer 7)]) twoConjunctions
    "0 || 2>10 && b==\tb |\n| 10>=9 && b! =c || 0" (spaced_of_stripSpaces (by decide +kernel))
    (by
      simp only [← occursIn_iff]
      decide +kernel)
  have htrue : b = true := by
    refine h.mpr (Or.inl ⟨_, List.mem_cons_of_mem _ List.mem_cons_self, ?_⟩)
    decide +kernel
  rw [hb, htrue]

end Entitlement.Condition
