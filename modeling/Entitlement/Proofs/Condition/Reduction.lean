import Entitlement.Condition.Chain

/-!
# `Entitlement.Proofs.Condition.Reduction` — what the two walks of a reduction compute

The first walk takes operands from a queue, the second one truth values. Nothing in either walk looks at where
an operand came from, so both are right only as long as queue and operators stay in step.

* **Combining.** `joined` is the truth value of a sequence in which `&&` binds tighter than `||`, defined by
  recursion on the sequence. `combine_joined` says that `combine` computes it whenever there is one value more
  than there are combinators; the invariant of its loop is that exactly the values still to be combined are
  pending, so that a single one is left at the end and nowhere before (`foldl_combineStep`).
* **Walking.** A comparison takes its two operands or stops the walk (`walk?_comparison`); a combinator takes none
  while two or more are left (`walk?_combinator`).
-/

namespace Entitlement.Condition

/-- The operator that is written for a combinator. -/
def Combinator.operator : Combinator → Operator
  | .and => .and
  | .or => .or

/-! ## Combining -/

/-- The truth value of `v` and the values behind it, each with the combinator in front of it, when `&&` binds
    tighter than `||`. -/
def joined (v : Bool) : List (Combinator × Bool) → Bool
  | [] => v
  | (.and, b) :: rest => joined (v && b) rest
  | (.or, b) :: rest => v || joined b rest

/-- With conjunctions only, all the values have to be true. -/
theorem joined_of_all_and {vs : List (Combinator × Bool)} (h : ∀ p ∈ vs, p.1 = .and) (v : Bool) :
    joined v vs = (v :: vs.map Prod.snd).all id := by
  induction vs generalizing v with
  | nil => simp [joined]
  | cons p rest ih =>
    obtain ⟨k, b⟩ := p
    obtain rfl : k = .and := h (k, b) List.mem_cons_self
    rw [joined, ih fun q hq => h q (List.mem_cons_of_mem _ hq)]
    simp [Bool.and_assoc]

/-- With disjunctions only, one true value is enough. -/
theorem joined_of_all_or {vs : List (Combinator × Bool)} (h : ∀ p ∈ vs, p.1 = .or) (v : Bool) :
    joined v vs = (v :: vs.map Prod.snd).any id := by
  induction vs generalizing v with
  | nil => simp [joined]
  | cons p rest ih =>
    obtain ⟨k, b⟩ := p
    obtain rfl : k = .or := h (k, b) List.mem_cons_self
    rw [joined, ih fun q hq => h q (List.mem_cons_of_mem _ hq)]
    simp

/-- The loop over mixed combinators, from a state in which a single pending value is already a disjunct. -/
theorem foldl_combineStep (vs : List (Combinator × Bool)) (v : Bool) (disjuncts : List Bool) :
    ((vs.map Prod.fst).foldl combineStep (settle (v :: vs.map Prod.snd, disjuncts))).2.any id =
      (disjuncts.any id || joined v vs) := by
  induction vs generalizing v disjuncts with
  | nil => simp [settle, joined]
  | cons p rest ih =>
    obtain ⟨k, b⟩ := p
    -- two values are pending, so none of them is settled before the step
    have hs : settle (v :: b :: rest.map Prod.snd, disjuncts) =
        (v :: b :: rest.map Prod.snd, disjuncts) := rfl
    rw [List.map_cons, List.map_cons, List.foldl_cons, hs]
    cases k with
    | and =>
      have hstep : combineStep (v :: b :: rest.map Prod.snd, disjuncts) .and =
          settle ((v && b) :: rest.map Prod.snd, disjuncts) := rfl
      rw [hstep, ih, joined]
    | or =>
      have hstep : combineStep (v :: b :: rest.map Prod.snd, disjuncts) .or =
          settle (b :: rest.map Prod.snd, disjuncts ++ [v]) := rfl
      rw [hstep, ih, joined]
      simp [Bool.or_assoc]

theorem contains_combinator_eq_false {vs : List (Combinator × Bool)} {k : Combinator} :
    (vs.map Prod.fst).contains k = false ↔ ∀ p ∈ vs, p.1 ≠ k := by
  rw [← Bool.not_eq_true, List.contains_iff_mem]
  constructor
  · intro h p hp e
    exact h (List.mem_map.mpr ⟨p, hp, e⟩)
  · intro h hk
    obtain ⟨p, hp, e⟩ := List.mem_map.mp hk
    exact h p hp e

theorem Combinator.eq_or_of_ne_and {k : Combinator} (h : k ≠ .and) : k = .or := by
  cases k with
  | and => exact absurd rfl h
  | or => rfl

theorem Combinator.eq_and_of_ne_or {k : Combinator} (h : k ≠ .or) : k = .and := by
  cases k with
  | and => rfl
  | or => exact absurd rfl h

/-- **Combining.** Values with a combinator between any two of them are joined with `&&` binding tighter. -/
theorem combine_joined (v : Bool) (vs : List (Combinator × Bool)) :
    combine (vs.map Prod.fst) (v :: vs.map Prod.snd) = joined v vs := by
  unfold combine
  cases ha : (vs.map Prod.fst).contains Combinator.and with
  | false =>
    have hor : ∀ p ∈ vs, p.1 = .or := by
      intro p hp
      exact Combinator.eq_or_of_ne_and (contains_combinator_eq_false.mp ha p hp)
    cases ho : (vs.map Prod.fst).contains Combinator.or with
    | false =>
      cases vs with
      | nil => rfl
      | cons p rest =>
        exact absurd (hor p List.mem_cons_self) (contains_combinator_eq_false.mp ho p List.mem_cons_self)
    | true => exact (joined_of_all_or hor v).symm
  | true =>
    cases ho : (vs.map Prod.fst).contains Combinator.or with
    | false =>
      have hand : ∀ p ∈ vs, p.1 = .and := by
        intro p hp
        exact Combinator.eq_and_of_ne_or (contains_combinator_eq_false.mp ho p hp)
      exact (joined_of_all_and hand v).symm
    | true =>
      -- there is a combinator, hence more than one value, and nothing is settled at the start
      obtain ⟨p, rest, rfl⟩ : ∃ p rest, vs = p :: rest := by
        cases vs with
        | nil => simp at ha
        | cons p rest => exact ⟨p, rest, rfl⟩
      have hs : settle (v :: (p :: rest).map Prod.snd, []) = (v :: (p :: rest).map Prod.snd, []) := rfl
      have h := foldl_combineStep (p :: rest) v []
      rw [hs, List.any_nil, Bool.false_or] at h
      exact h

/-! ## Walking -/

/-- The operators that compare, the ones that stand for no operation included. -/
def comparisons (os : List Operator) : List Operator := os.filter fun o => !o.isCombinator

theorem walk?_comparison {leading : Bool} {w : Walk} {o : Operator} {os : List Operator}
    (ho : o.isCombinator = false) :
    walk? leading w (o :: os) =
      match w.meetComparison? o with
      | some w' => walk? false w' os
      | none => .error o := by
  cases o with
  | and => exact absurd ho (by decide)
  | or => exact absurd ho (by decide)
  | ge | gt | le | lt | eq | ne | unsupported => rfl

/-- A combinator takes no operand while two or more of them are left. -/
theorem walk?_combinator {operands : List (List Char)} (h : 2 ≤ operands.length) (results : List Bool)
    (combinators : List Combinator) (k : Combinator) (os : List Operator) :
    walk? false ⟨operands, results, combinators⟩ (k.operator :: os) =
      walk? false ⟨operands, results, combinators ++ [k]⟩ os := by
  cases k with
  | and => rfl
  | or =>
    have hne : ¬ operands.length = 1 := by omega
    rw [Combinator.operator, walk?, Walk.meetOr]
    simp only [Bool.false_eq_true, ↓reduceIte, if_neg hne]

end Entitlement.Condition
