import Entitlement.Attribute.Value
import Entitlement.Proofs.Condition.ComparisonLaws
import Entitlement.Proofs.Numeral.Nearest

/-!
# `Entitlement.Proofs.Condition.ExactValues` — numbers are compared by what they denote

Whether an operand is taken exactly or rounded depends on the other one. Both ways keep the order of the exact values:
integers because they are not rounded, and doubles because rounding is monotone. A number that is not greater than
another is therefore never compared as greater (`order?_ne_gt`). Rounding may make different values equal, but between
two signed runs of digits within 128 bits nothing is rounded, and every operator says of them what it says of the
integers (`holds_iff_compares`).
-/

namespace Entitlement.Condition

open Attribute (Value)
open Numeral

variable {l r s : List Char}

/-! ## What an operand denotes -/

theorem exists_decimal_of_number? {x : Binary64} (h : number? s = some x) :
    ∃ d, Decimal.read? s = some d ∧ d.toBinary64 = x :=
  Option.map_eq_some_iff.mp (Option.filter_eq_some_iff.mp h).1

/-- The double that an operand is read as is the one nearest to its exact value. -/
theorem denotes_of_number? {x : Binary64} (h : number? s = some x) :
    ∃ q, Denotes s q ∧ Binary64.IsNearest x.magnitude |q| := by
  obtain ⟨d, hd, rfl⟩ := exists_decimal_of_number? h
  refine ⟨d.value, denotes_iff.mpr ⟨d, hd, rfl⟩, ?_⟩
  rw [Decimal.abs_value]
  exact d.isNearest_toBinary64

theorem denotes_of_integer? {i : Int} (h : integer? s = some i) : Denotes s i :=
  denotes_of_signed? (signedWithin?_eq_some_iff.mp h).1

/-- The operands that are read as integers are the signed runs of digits within 128 bits. -/
theorem integer?_digits {σ : Sign} {ds : Digits} (hne : ds.chars ≠ [])
    (hrange : int128.holds (σ.apply (ds.value : Int)) = true) :
    integer? (σ.text ++ ds.chars) = some (σ.apply (ds.value : Int)) := by
  have hsigned : signed? (σ.text ++ ds.chars) = some (σ.apply (ds.value : Int)) :=
    signed?_eq_some_iff.mpr ⟨σ, ds, hne, rfl, rfl⟩
  rw [integer?, signedWithin?, hsigned, Option.filter_some, if_pos hrange]

theorem integer?_text {i : Int} (h : int64.holds i = true) : integer? (Value.integer i).text = some i := by
  refine signedWithin?_eq_some_iff.mpr ⟨signed?_decimalText i, ?_⟩
  rw [Range.holds, Bool.and_eq_true, decide_eq_true_eq, decide_eq_true_eq] at h
  have hleast : int128.least ≤ int64.least := by decide
  have hgreatest : int64.greatest ≤ int128.greatest := by decide
  exact ⟨hleast.trans h.1, h.2.trans hgreatest⟩

/-! ## The order of exact values -/

/-- **No rounding turns an order around.** Of two numbers the first is not compared as greater when its exact value is
    not greater. -/
theorem order?_ne_gt (hl : number? l ≠ none) (hr : number? r ≠ none) {p q : ℚ} (hp : Denotes l p)
    (hq : Denotes r q) (hle : p ≤ q) : ∃ ord, order? l r = some ord ∧ ord ≠ .gt := by
  by_cases hint : integer? l = none ∨ integer? r = none
  · obtain ⟨x, hx⟩ := Option.ne_none_iff_exists'.mp hl
    obtain ⟨y, hy⟩ := Option.ne_none_iff_exists'.mp hr
    refine ⟨_, order?_of_numbers hint hx hy, ?_⟩
    obtain ⟨d, hd, rfl⟩ := exists_decimal_of_number? hx
    obtain ⟨d', hd', rfl⟩ := exists_decimal_of_number? hy
    obtain rfl := hp.unique (denotes_iff.mpr ⟨d, hd, rfl⟩)
    obtain rfl := hq.unique (denotes_iff.mpr ⟨d', hd', rfl⟩)
    exact compare_le_iff_le.mpr (Decimal.signedUnits_toBinary64_mono hle)
  · rw [not_or] at hint
    obtain ⟨a, ha⟩ := Option.ne_none_iff_exists'.mp hint.1
    obtain ⟨b, hb⟩ := Option.ne_none_iff_exists'.mp hint.2
    refine ⟨_, order?_of_integers ha hb, ?_⟩
    obtain rfl := hp.unique (denotes_of_integer? ha)
    obtain rfl := hq.unique (denotes_of_integer? hb)
    exact compare_le_iff_le.mpr (Int.cast_le.mp hle)

/-- What an operator says of two integers. -/
def Operator.Compares (o : Operator) (a b : Int) : Prop :=
  match o with
  | .ge => a ≥ b
  | .gt => a > b
  | .le => a ≤ b
  | .lt => a < b
  | .eq => a = b
  | .ne => a ≠ b
  | .and | .or | .unsupported _ => False

/-- Operands that are read as integers are compared as these, by every operator. -/
theorem holds_iff_compares {a b : Int} (hl : integer? l = some a) (hr : integer? r = some b) (o : Operator) :
    o.holds l r = true ↔ o.Compares a b := by
  rw [Operator.holds, order?_of_integers hl hr]
  cases o with
  | ge => exact bne_iff_ne.trans compare_ge_iff_ge
  | gt => exact beq_iff_eq.trans compare_gt_iff_gt
  | le => exact bne_iff_ne.trans compare_le_iff_le
  | lt => exact beq_iff_eq.trans compare_lt_iff_lt
  | eq => exact beq_iff_eq.trans compare_eq_iff_eq
  | ne => exact bne_iff_ne.trans (not_congr compare_eq_iff_eq)
  | and => exact iff_of_false Bool.false_ne_true id
  | or => exact iff_of_false Bool.false_ne_true id
  | unsupported => exact iff_of_false Bool.false_ne_true id

/-- **Comparison respects exact values.** A number denotes exactly one value, and the double that it is read as is the
    nearest to it. If the value of one number is at most that of another, `<=` holds of the two and `>` does not,
    whichever of them are integers, fractions or too wide for either. Two runs of digits with or without a sign,
    zeros in front included, whose values have 128 bits are compared as integers by every operator. The texts of two
    different integer attributes are never equal. -/
theorem comparison_respects_values :
    (∀ s x, number? s = some x → ∃! q, Denotes s q ∧ Binary64.IsNearest x.magnitude |q|) ∧
    (∀ l r p q, number? l ≠ none → number? r ≠ none → Denotes l p → Denotes r q → p ≤ q →
      Operator.le.holds l r = true ∧ Operator.gt.holds l r = false) ∧
    (∀ (σ τ : Sign) (ds es : Digits), ds.chars ≠ [] → es.chars ≠ [] →
      int128.holds (σ.apply (ds.value : Int)) = true → int128.holds (τ.apply (es.value : Int)) = true →
      ∀ o : Operator, o.holds (σ.text ++ ds.chars) (τ.text ++ es.chars) = true ↔
        o.Compares (σ.apply (ds.value : Int)) (τ.apply (es.value : Int))) ∧
    ∀ i j, int64.holds i = true → int64.holds j = true → i ≠ j →
      Operator.eq.holds (Value.integer i).text (Value.integer j).text = false := by
  refine ⟨fun s x hx => ?_, fun l r p q hl hr hp hq hle => ?_, fun σ τ ds es hds hes hleft hright o => ?_,
    fun i j hi hj hne => ?_⟩
  · obtain ⟨q, hq, hnearest⟩ := denotes_of_number? hx
    exact ⟨q, ⟨hq, hnearest⟩, fun q' h => h.1.unique hq⟩
  · obtain ⟨ord, horder, hord⟩ := order?_ne_gt hl hr hp hq hle
    simp only [Operator.holds, horder]
    exact ⟨bne_iff_ne.mpr hord, beq_eq_false_iff_ne.mpr hord⟩
  · exact holds_iff_compares (integer?_digits hds hleft) (integer?_digits hes hright) o
  · rw [Bool.eq_false_iff]
    exact fun h => hne ((holds_iff_compares (integer?_text hi) (integer?_text hj) .eq).mp h)

/-- The digits of a text that has nothing else. -/
private def digitsOf (s : String) (h : s.toList.all Char.isDigit = true) : Digits := ⟨s.toList, List.all_eq_true.mp h⟩

/-- A tenth is not a double, an integer of 54 bits is rounded when it is compared with a fraction, and is not when it
    is compared with an integer, up to both ends of 128 bits. -/
theorem comparison_respects_values_rounded :
    (∃! q, Denotes "0.1".toList q ∧ Binary64.IsNearest (Binary64.ofBits 0x3FB999999999999A).magnitude |q|) ∧
    (Operator.le.holds "9007199254740992.5".toList "9007199254740993".toList = true ∧
      Operator.gt.holds "9007199254740992.5".toList "9007199254740993".toList = false) ∧
    Operator.lt.holds "-170141183460469231731687303715884105728".toList
      "+00170141183460469231731687303715884105727".toList = true ∧
    Operator.eq.holds (Value.integer 9007199254740993).text (Value.integer 9007199254740992).text = false := by
  obtain ⟨hunique, horder, hintegers, hattributes⟩ := comparison_respects_values
  refine ⟨hunique _ _ (by decide +kernel), ?_, ?_, hattributes _ _ (by decide) (by decide) (by decide)⟩
  · refine horder _ _ (Decimal.value ⟨false, 90071992547409925, -1⟩) (Decimal.value ⟨false, 9007199254740993, 0⟩)
      (by decide +kernel) (by decide +kernel) ?_ ?_ ?_
    · exact denotes_iff.mpr ⟨_, by decide +kernel, rfl⟩
    · exact denotes_iff.mpr ⟨_, by decide +kernel, rfl⟩
    · norm_num [Decimal.value, Decimal.absValue]
  · refine (hintegers .minus .plus (digitsOf "170141183460469231731687303715884105728" (by decide +kernel))
      (digitsOf "00170141183460469231731687303715884105727" (by decide +kernel)) (by decide +kernel)
      (by decide +kernel) (by decide +kernel) (by decide +kernel) .lt).mpr ?_
    show (_ : Int) < _
    decide +kernel

end Entitlement.Condition
