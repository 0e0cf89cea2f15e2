import Entitlement.Proofs.Condition.Reduction

/-!
# `Entitlement.Proofs.Condition.OperandCount` — when the walk over the operators runs out of operands

What an operator does to the queue of operands depends on the length of the queue alone, so the whole walk can
be followed by counting (`operandsLeft`).

* **Which comparison.** The walk stops at the first comparison that finds fewer than two operands
  (`walk?_eq_error_iff`).
* **Whether at all.** It stops somewhere exactly when the comparisons and a leading `||` ask for more operands
  than there are (`exists_truth?_eq_error_iff`). An operand that a later `||` takes is the last one, and one
  operand would not have been enough for a comparison either, so those do not count.
-/

namespace Entitlement.Condition

/-! ## What is left -/

/-- How many of `n` operands an operator leaves: a comparison takes two and `&&` none; `||` takes one when it
    is the first operator, and then the last one when a single one is left. -/
def Operator.leaves (leading : Bool) (n : Nat) : Operator → Nat
  | .and => n
  | .or =>
    let m := if leading then n - 1 else n
    if m = 1 then 0 else m
  | _ => n - 2

/-- How many of `n` operands are left when the operators have been met, the first of them as the first operator
    of the condition (`leading`) or as a later one. -/
def operandsLeft (leading : Bool) (n : Nat) : List Operator → Nat
  | [] => n
  | o :: os => operandsLeft false (o.leaves leading n) os

/-- The first comparison before which fewer than two of `n` operands remain. -/
def LacksOperand (leading : Bool) (n : Nat) (os : List Operator) (o : Operator) : Prop :=
  ∃ front back, os = front ++ o :: back ∧ o.isCombinator = false ∧ operandsLeft leading n front < 2 ∧
    ∀ front' o' back', front = front' ++ o' :: back' → o'.isCombinator = false →
      2 ≤ operandsLeft leading n front'

theorem Operator.leaves_comparison {o : Operator} (ho : o.isCombinator = false) (leading : Bool) (n : Nat) :
    o.leaves leading n = n - 2 := by
  cases o with
  | and | or => simp [isCombinator] at ho
  | ge | gt | le | lt | eq | ne | unsupported => rfl

theorem lacksOperand_nil {leading : Bool} {n : Nat} {o : Operator} : ¬ LacksOperand leading n [] o := by
  rintro ⟨front, back, h, -⟩
  simp at h

/-- The first operator either lacks an operand itself, or the search goes on behind it. -/
theorem lacksOperand_cons {leading : Bool} {n : Nat} {o' o : Operator} {os : List Operator} :
    LacksOperand leading n (o' :: os) o ↔
      (o'.isCombinator = false ∧ n < 2 ∧ o' = o) ∨
        (o'.isCombinator = false → 2 ≤ n) ∧ LacksOperand false (o'.leaves leading n) os o := by
  constructor
  · rintro ⟨front, back, heq, ho, hleft, hfront⟩
    cases front with
    | nil =>
      obtain ⟨rfl, rfl⟩ := List.cons.inj heq
      exact .inl ⟨ho, hleft, rfl⟩
    | cons x front =>
      obtain ⟨rfl, rfl⟩ := List.cons.inj heq
      refine .inr ⟨fun h => hfront [] o' front rfl h, front, back, rfl, ho, hleft, ?_⟩
      intro front' o'' back' he h
      exact hfront (o' :: front') o'' back' (by rw [he]; rfl) h
  · rintro (⟨ho, hn, rfl⟩ | ⟨hn, front, back, rfl, ho, hleft, hfront⟩)
    · exact ⟨[], os, rfl, ho, hn, fun front' o'' back' he => by simp at he⟩
    · refine ⟨o' :: front, back, rfl, ho, hleft, ?_⟩
      intro front' o'' back' he h
      cases front' with
      | nil =>
        obtain ⟨rfl, -⟩ := List.cons.inj he
        exact hn h
      | cons x front' =>
        obtain ⟨rfl, htail⟩ := List.cons.inj he
        exact hfront front' o'' back' htail h

/-! ## The walk -/

theorem length_takeBare (w : Walk) : w.takeBare.operands.length = w.operands.length - 1 := by
  unfold Walk.takeBare
  cases hs : w.operands with
  | nil => simp [hs]
  | cons s rest => simp

theorem length_meetOr (leading : Bool) (w : Walk) :
    (w.meetOr leading).operands.length = Operator.or.leaves leading w.operands.length := by
  unfold Walk.meetOr
  cases leading with
  | false =>
    by_cases h : w.operands.length = 1
    · simp [Operator.leaves, length_takeBare, h]
    · simp [Operator.leaves, h]
  | true =>
    by_cases h : w.operands.length - 1 = 1
    · simp [Operator.leaves, length_takeBare, h]
    · simp [Operator.leaves, length_takeBare, h]

theorem meetComparison?_eq_none_iff {o : Operator} {w : Walk} :
    w.meetComparison? o = none ↔ w.operands.length < 2 := by
  unfold Walk.meetComparison?
  split
  · next hs => simp [hs]
  · next hs =>
    -- a list of two elements or more would have matched
    match hw : w.operands with
    | [] => simp
    | [s] => simp
    | s :: s' :: rest => exact absurd hw (hs s s' rest)

theorem length_meetComparison? {o : Operator} {w w' : Walk} (h : w.meetComparison? o = some w') :
    w'.operands.length + 2 = w.operands.length := by
  unfold Walk.meetComparison? at h
  split at h
  · next left right rest hs =>
    injection h with h
    rw [← h, hs]
    rfl
  · cases h

/-- **Which comparison.** The walk stops at the first comparison that finds fewer than two operands. -/
theorem walk?_eq_error_iff {leading : Bool} {w : Walk} {os : List Operator} {o : Operator} :
    walk? leading w os = .error o ↔ LacksOperand leading w.operands.length os o := by
  induction os generalizing leading w with
  | nil => simp [walk?, lacksOperand_nil]
  | cons o' os ih =>
    rw [lacksOperand_cons]
    cases ho : o'.isCombinator with
    | true =>
      cases o' with
      | and =>
        rw [walk?, ih]
        simp [Walk.meetAnd, Operator.leaves]
      | or =>
        rw [walk?, ih, length_meetOr]
        simp
      | ge | gt | le | lt | eq | ne | unsupported => simp [Operator.isCombinator] at ho
    | false =>
      rw [walk?_comparison ho, Operator.leaves_comparison ho]
      cases hm : w.meetComparison? o' with
      | none =>
        have hn := meetComparison?_eq_none_iff.mp hm
        have hn' : ¬ 2 ≤ w.operands.length := by omega
        simp [hn, hn']
      | some w' =>
        have hlength := length_meetComparison? hm
        have hn : ¬ w.operands.length < 2 := by omega
        have hw' : w'.operands.length = w.operands.length - 2 := by omega
        simp only [ih, hw', hn]
        simp only [false_and, and_false, false_or, true_implies]
        exact ⟨fun h => ⟨by omega, h⟩, fun h => h.2⟩

/-! ## Counting -/

/-- The operators that combine truth values. -/
def combinators (os : List Operator) : List Operator := os.filter Operator.isCombinator

theorem length_comparisons_add_combinators (os : List Operator) :
    (comparisons os).length + (combinators os).length = os.length := by
  rw [comparisons, combinators, ← List.countP_eq_length_filter, ← List.countP_eq_length_filter, Nat.add_comm,
    List.length_eq_countP_add_countP Operator.isCombinator]
  simp

theorem comparisons_append (os os' : List Operator) :
    comparisons (os ++ os') = comparisons os ++ comparisons os' := List.filter_append os os'

theorem comparisons_cons_of_combinator {o : Operator} (ho : o.isCombinator = true) (os : List Operator) :
    comparisons (o :: os) = comparisons os := by
  simp [comparisons, ho]

theorem comparisons_cons_of_comparison {o : Operator} (ho : o.isCombinator = false) (os : List Operator) :
    comparisons (o :: os) = o :: comparisons os := by
  simp [comparisons, ho]

theorem exists_lacksOperand_cons_of_combinator {leading : Bool} {n : Nat} {o' : Operator} {os : List Operator}
    (ho : o'.isCombinator = true) :
    (∃ o, LacksOperand leading n (o' :: os) o) ↔ ∃ o, LacksOperand false (o'.leaves leading n) os o := by
  simp [lacksOperand_cons, ho]

theorem exists_lacksOperand_cons_of_comparison {leading : Bool} {n : Nat} {o' : Operator} {os : List Operator}
    (ho : o'.isCombinator = false) :
    (∃ o, LacksOperand leading n (o' :: os) o) ↔ n < 2 ∨ ∃ o, LacksOperand false (n - 2) os o := by
  by_cases hn : n < 2
  · simp [lacksOperand_cons, ho, hn]
  · simp [lacksOperand_cons, ho, hn, Operator.leaves_comparison ho, Nat.le_of_not_lt hn]

/-- Behind the first operator, operands run out exactly when there are not two for each comparison. In
    particular the operand that an `||` takes is never one that a comparison would have needed. -/
theorem exists_lacksOperand_iff {n : Nat} {os : List Operator} :
    (∃ o, LacksOperand false n os o) ↔ n < 2 * (comparisons os).length := by
  induction os generalizing n with
  | nil => simp [lacksOperand_nil, comparisons]
  | cons o' os ih =>
    cases ho : o'.isCombinator with
    | true =>
      rw [exists_lacksOperand_cons_of_combinator ho, ih, comparisons_cons_of_combinator ho]
      cases o' with
      | and => rfl
      | or =>
        show (if n = 1 then 0 else n) < _ ↔ n < _
        split <;> omega
      | ge | gt | le | lt | eq | ne | unsupported => cases ho
    | false =>
      rw [exists_lacksOperand_cons_of_comparison ho, ih, comparisons_cons_of_comparison ho, List.length_cons]
      omega

/-- How many operands the first operator takes besides those of the comparisons. -/
def leadingOperands (os : List Operator) : Nat := if os.head? = some .or then 1 else 0

theorem leadingOperands_of_ne_or {o : Operator} (ho : o ≠ .or) (os : List Operator) :
    leadingOperands (o :: os) = 0 := by
  simp [leadingOperands, ho]

/-- From the start of a condition, a leading `||` asks for one operand more. -/
theorem exists_lacksOperand_leading_iff {n : Nat} {os : List Operator} (hn : 0 < n) :
    (∃ o, LacksOperand true n os o) ↔ n < 2 * (comparisons os).length + leadingOperands os := by
  cases os with
  | nil => simp [lacksOperand_nil, comparisons, leadingOperands]
  | cons o' os =>
    cases ho : o'.isCombinator with
    | true =>
      rw [exists_lacksOperand_cons_of_combinator ho, exists_lacksOperand_iff, comparisons_cons_of_combinator ho]
      cases o' with
      | and => rfl
      | or =>
        show (if n - 1 = 1 then 0 else n - 1) < _ ↔ n < _ + 1
        split <;> omega
      | ge | gt | le | lt | eq | ne | unsupported => cases ho
    | false =>
      have hne : o' ≠ .or := by
        rintro rfl
        cases ho
      rw [exists_lacksOperand_cons_of_comparison ho, exists_lacksOperand_iff, comparisons_cons_of_comparison ho,
        List.length_cons, leadingOperands_of_ne_or hne]
      omega

/-! ## Tokens -/

theorem truth?_eq_error_iff {t : Tokens} {o : Operator} :
    t.truth? = .error o ↔ LacksOperand true t.operands.length t.operators o := by
  have hwalk : walk? true ⟨t.operands, [], []⟩ t.operators = .error o ↔
      LacksOperand true t.operands.length t.operators o := walk?_eq_error_iff
  rw [← hwalk, Tokens.truth?]
  cases walk? true ⟨t.operands, [], []⟩ t.operators with
  | ok w => simp [Except.map]
  | error o' => simp [Except.map]

/-- **Whether at all.** Tokens have one operand more than operators, so a comparison lacks an operand exactly
    when comparisons and a leading `||` outnumber the combinators by more than one. -/
theorem exists_truth?_eq_error_iff {t : Tokens} :
    (∃ o, t.truth? = .error o) ↔
      (combinators t.operators).length + 1 < (comparisons t.operators).length + leadingOperands t.operators := by
  have hcount := length_comparisons_add_combinators t.operators
  have hoperands := t.length_operands
  simp only [truth?_eq_error_iff]
  rw [exists_lacksOperand_leading_iff (by omega)]
  omega

end Entitlement.Condition
