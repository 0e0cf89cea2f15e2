import Entitlement.Condition.Comparison
import Mathlib.Data.Char
import Mathlib.Logic.ExistsUnique

/-!
# `Entitlement.Proofs.Condition.ComparisonLaws` — any two operands are comparable

Two operands are compared as integers, as doubles or as texts, and which of these it is depends on both of them.
Since it depends on both in the same way, and since no operand is read as a double that is not a finite number, any
two operands have an order, and exchanging them reverses it (`exists_order`). The laws of the six comparison operators
follow from that alone (`comparison_laws`). The order is not one order of all texts: `9` comes before `10`, `10`
before `10a` and `10a` before `9`, so that nothing is said about three operands.
-/

namespace Entitlement.Condition

open Numeral

theorem isFinite_of_number? {s : List Char} {x : Binary64} (h : number? s = some x) : x.isFinite = true :=
  (Option.filter_eq_some_iff.mp h).2

/-- Finite doubles are compared by their values. -/
theorem order?_of_isFinite {x y : Binary64} (hx : x.isFinite = true) (hy : y.isFinite = true) :
    Binary64.order? x y = some (compare x.signedUnits y.signedUnits) := by
  have hnot {z : Binary64} (hz : z.isFinite = true) : z.isNaN = false := by
    rw [Binary64.isFinite, decide_eq_true_eq] at hz
    exact decide_eq_false (Nat.not_lt_of_lt hz)
  rw [Binary64.order?, hnot hx, hnot hy]
  rfl

/-! ## The three ways to compare -/

section Ways

variable {l r : List Char}

theorem order?_of_integers {a b : Int} (hl : integer? l = some a) (hr : integer? r = some b) :
    order? l r = some (compare a b) := by
  rw [order?, hl, hr]

/-- Operands that are numbers, but not both integers, are compared as doubles. -/
theorem order?_of_numbers {x y : Binary64} (hint : integer? l = none ∨ integer? r = none)
    (hl : number? l = some x) (hr : number? r = some y) :
    order? l r = some (compare x.signedUnits y.signedUnits) := by
  have hdoubles : order? l r = Binary64.order? x y := by
    rcases hint with h | h
    · rw [order?, h, hl, hr]
    · cases hi : integer? l <;> rw [order?, hi, h, hl, hr]
  rw [hdoubles, order?_of_isFinite (isFinite_of_number? hl) (isFinite_of_number? hr)]

/-- Operands that are not both numbers are compared as texts. -/
theorem order?_of_texts (hint : integer? l = none ∨ integer? r = none)
    (hnumber : number? l = none ∨ number? r = none) : order? l r = some (compare l r) := by
  unfold order?
  split
  · rename_i a b hl hr
    rw [hl, hr] at hint
    rcases hint with h | h <;> cases h
  · split
    · rename_i x y hl hr
      rw [hl, hr] at hnumber
      rcases hnumber with h | h <;> cases h
    · rfl

end Ways

/-- **Every two operands have an order**, and exchanging them reverses it. -/
theorem exists_order (l r : List Char) : ∃ o, order? l r = some o ∧ order? r l = some o.swap := by
  by_cases hint : integer? l = none ∨ integer? r = none
  · by_cases hnumber : number? l = none ∨ number? r = none
    · refine ⟨compare l r, order?_of_texts hint hnumber, ?_⟩
      rw [order?_of_texts hint.symm hnumber.symm, ← Std.OrientedCmp.eq_swap]
    · rw [not_or] at hnumber
      obtain ⟨x, hx⟩ := Option.ne_none_iff_exists'.mp hnumber.1
      obtain ⟨y, hy⟩ := Option.ne_none_iff_exists'.mp hnumber.2
      refine ⟨_, order?_of_numbers hint hx hy, ?_⟩
      rw [order?_of_numbers hint.symm hy hx, ← Std.OrientedCmp.eq_swap]
  · rw [not_or] at hint
    obtain ⟨a, ha⟩ := Option.ne_none_iff_exists'.mp hint.1
    obtain ⟨b, hb⟩ := Option.ne_none_iff_exists'.mp hint.2
    refine ⟨compare a b, order?_of_integers ha hb, ?_⟩
    rw [order?_of_integers hb ha, ← Std.OrientedCmp.eq_swap]

/-- The operator that holds of operands in an order. -/
def Operator.ofOrdering : Ordering → Operator
  | .lt => .lt
  | .eq => .eq
  | .gt => .gt

/-- Of less, equal and greater only that operator holds which says what the order is. -/
theorem holds_iff_eq_ofOrdering {l r : List Char} {ord : Ordering} (h : order? l r = some ord) {o : Operator}
    (ho : o = .lt ∨ o = .eq ∨ o = .gt) : o.holds l r = true ↔ o = .ofOrdering ord := by
  rw [Operator.holds, h]
  rcases ho with rfl | rfl | rfl <;> cases ord <;> decide

/-- **Laws of comparison.** For any two operands, numbers or not: they have an order; exactly one of less, equal and
    greater holds; each of the other three operators is the negation of one of these; and exchanging the operands
    mirrors the operators. -/
theorem comparison_laws (l r : List Char) :
    order? l r ≠ none ∧
    (∃! o : Operator, (o = .lt ∨ o = .eq ∨ o = .gt) ∧ o.holds l r = true) ∧
    Operator.ge.holds l r = !Operator.lt.holds l r ∧
    Operator.le.holds l r = !Operator.gt.holds l r ∧
    Operator.ne.holds l r = !Operator.eq.holds l r ∧
    Operator.lt.holds l r = Operator.gt.holds r l ∧
    Operator.le.holds l r = Operator.ge.holds r l ∧
    Operator.eq.holds l r = Operator.eq.holds r l := by
  obtain ⟨ord, horder, hswap⟩ := exists_order l r
  refine ⟨by rw [horder]; exact Option.some_ne_none ord, ?_, ?_⟩
  · have hstrict : Operator.ofOrdering ord = .lt ∨ Operator.ofOrdering ord = .eq ∨
        Operator.ofOrdering ord = .gt := by cases ord <;> decide
    refine ⟨.ofOrdering ord, ⟨hstrict, (holds_iff_eq_ofOrdering horder hstrict).mpr rfl⟩, ?_⟩
    rintro o ⟨ho, hholds⟩
    exact (holds_iff_eq_ofOrdering horder ho).mp hholds
  · simp only [Operator.holds, horder, hswap]
    cases ord <;> decide

/-- Three operands that come before one another in a circle: the first two are numbers, the third is a text. -/
example : Operator.lt.holds ['9'] ['1', '0'] = true ∧ Operator.lt.holds ['1', '0'] ['1', '0', 'a'] = true ∧
    Operator.lt.holds ['1', '0', 'a'] ['9'] = true := by decide +kernel

end Entitlement.Condition
