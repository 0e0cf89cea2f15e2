import Entitlement.Proofs.Condition.Outcome
import Mathlib.Data.List.Forall2

/-!
# `Entitlement.Proofs.Condition.Readings` — what a truth value rests on

The walk over the operators of a condition reads its operands in two ways: two of them for a comparison, and one
by itself for an `||` that takes it. `readings` lists what is read, and the values that the walk collects are the
truth values of the list (`walk?_eq_ok`).

Combining them never makes something true out of nothing. The loop over mixed combinators keeps any relation
between two runs that `&&` respects and that relates false to false (`Related`). With "both false" as the relation
the result is false when all values are (`combine_of_all_false`), whatever is missing or left over; with the order
of truth values it says that a condition does not become false when a value becomes true (`combine_mono`).
-/

namespace Entitlement.Condition

open Attribute (Row)

/-! ## Readings -/

/-- A comparison of two operands, or an operand taken for a truth value of its own. -/
inductive Reading where
  | comparison (o : Operator) (left right : List Char)
  | bare (operand : List Char)
  deriving DecidableEq

namespace Reading

/-- The truth value of what was read. -/
def truth : Reading → Bool
  | comparison o left right => o.holds left right
  | bare operand => truthy operand

/-- The operands that were read. -/
def operands : Reading → List (List Char)
  | comparison _ left right => [left, right]
  | bare operand => [operand]

/-- The operator of a comparison. -/
def operator? : Reading → Option Operator
  | comparison o _ _ => some o
  | bare _ => none

theorem flatMap_operands_bare (ss : List (List Char)) : (ss.map bare).flatMap operands = ss := by
  rw [List.flatMap_map]
  exact List.flatMap_singleton' ss

theorem filterMap_operator?_bare (ss : List (List Char)) : (ss.map bare).filterMap operator? = [] := by
  rw [List.filterMap_map]
  exact List.filterMap_eq_nil_iff.mpr fun s _ => rfl

theorem map_truth_bare (ss : List (List Char)) : (ss.map bare).map truth = ss.map truthy := by
  rw [List.map_map]
  rfl

end Reading

/-- How many of `n` operands an operator takes. -/
def Operator.takes (leading : Bool) (n : Nat) (o : Operator) : Nat := n - o.leaves leading n

/-- What an operator reads off the operands that it takes. -/
def Operator.reading (o : Operator) (taken : List (List Char)) : List Reading :=
  if o.isCombinator then taken.map .bare
  else
    match taken with
    | [left, right] => [.comparison o left right]
    | _ => []

/-- What the operators read off the operands, the first of them as the first operator of the condition
    (`leading`) or as a later one. -/
def readings (leading : Bool) (operands : List (List Char)) : List Operator → List Reading
  | [] => []
  | o :: os =>
    o.reading (operands.take (o.takes leading operands.length)) ++
      readings false (operands.drop (o.takes leading operands.length)) os

/-- What is read when tokens are reduced. -/
def Tokens.readings (t : Tokens) : List Reading := Condition.readings true t.operands t.operators

/-- The combinator that an operator is. -/
def Operator.combinator? : Operator → Option Combinator
  | .and => some .and
  | .or => some .or
  | _ => none

/-! ## The walk -/

/-- Walking over `os` from `w` reads `rs` and leads to `w'`: the operands are used up in order, the comparisons
    that are made are those of `os`, and the truth values of all readings are collected. -/
structure Walked (w : Walk) (os : List Operator) (rs : List Reading) (w' : Walk) : Prop where
  operands : w.operands = rs.flatMap Reading.operands ++ w'.operands
  comparisons : rs.filterMap Reading.operator? = comparisons os
  results : w'.results = w.results ++ rs.map Reading.truth
  combinators : w'.combinators = w.combinators ++ os.filterMap Operator.combinator?

namespace Walked

variable {w w₁ w₂ : Walk}

theorem refl (w : Walk) : Walked w [] [] w where
  operands := rfl
  comparisons := rfl
  results := (List.append_nil _).symm
  combinators := (List.append_nil _).symm

theorem append {os os' : List Operator} {rs rs' : List Reading} (h : Walked w os rs w₁)
    (h' : Walked w₁ os' rs' w₂) : Walked w (os ++ os') (rs ++ rs') w₂ where
  operands := by rw [h.operands, h'.operands, List.flatMap_append, List.append_assoc]
  comparisons := by rw [List.filterMap_append, h.comparisons, h'.comparisons, comparisons_append]
  results := by rw [h'.results, h.results, List.map_append, List.append_assoc]
  combinators := by rw [h'.combinators, h.combinators, List.filterMap_append, List.append_assoc]

/-- Operands that are taken for truth values of their own. -/
theorem bare {o : Operator} {k : Combinator} (ho : o.isCombinator = true) (hk : o.combinator? = some k) (n : Nat) :
    Walked w [o] ((w.operands.take n).map .bare)
      ⟨w.operands.drop n, w.results ++ (w.operands.take n).map truthy, w.combinators ++ [k]⟩ where
  operands := by rw [Reading.flatMap_operands_bare, List.take_append_drop]
  comparisons := by
    rw [Reading.filterMap_operator?_bare, comparisons_cons_of_combinator ho]
    rfl
  results := by rw [Reading.map_truth_bare]
  combinators := by simp [hk]

theorem comparison {o : Operator} (ho : o.isCombinator = false) (left right : List Char)
    (rest : List (List Char)) (results : List Bool) (ks : List Combinator) :
    Walked ⟨left :: right :: rest, results, ks⟩ [o] [.comparison o left right]
      ⟨rest, results ++ [o.holds left right], ks⟩ where
  operands := rfl
  comparisons := (comparisons_cons_of_comparison ho []).symm
  results := rfl
  combinators := by
    cases o with
    | and | or => cases ho
    | ge | gt | le | lt | eq | ne | unsupported => exact (List.append_nil ks).symm

end Walked

section Walking

variable {leading : Bool} {w w' : Walk} {o : Operator} {os : List Operator}

/-- An `||` takes the operands in front for truth values of their own. -/
theorem meetOr_eq :
    w.meetOr leading =
      ⟨w.operands.drop (Operator.or.takes leading w.operands.length),
        w.results ++ (w.operands.take (Operator.or.takes leading w.operands.length)).map truthy,
        w.combinators ++ [.or]⟩ := by
  obtain ⟨operands, results, ks⟩ := w
  cases leading <;> rcases operands with - | ⟨a, - | ⟨b, - | ⟨c, rest⟩⟩⟩ <;>
    simp [Walk.meetOr, Walk.takeBare, Operator.takes, Operator.leaves]

/-- **One step.** -/
theorem walked_step (h : walk? leading w (o :: os) = .ok w') :
    ∃ w₁, walk? false w₁ os = .ok w' ∧
      w₁.operands = w.operands.drop (o.takes leading w.operands.length) ∧
      Walked w [o] (o.reading (w.operands.take (o.takes leading w.operands.length))) w₁ := by
  cases ho : o.isCombinator with
  | true =>
    have hreading (taken : List (List Char)) : o.reading taken = taken.map .bare := if_pos ho
    rw [hreading]
    cases o with
    | and =>
      have hnone : Operator.and.takes leading w.operands.length = 0 := Nat.sub_self _
      have hand : w.meetAnd = ⟨w.operands.drop 0, w.results ++ (w.operands.take 0).map truthy,
          w.combinators ++ [.and]⟩ := by simp [Walk.meetAnd]
      rw [hnone]
      exact ⟨w.meetAnd, h, rfl, hand ▸ Walked.bare ho rfl 0⟩
    | or =>
      have hbare := Walked.bare (w := w) ho rfl (Operator.or.takes leading w.operands.length)
      rw [← meetOr_eq] at hbare
      exact ⟨w.meetOr leading, h, by rw [meetOr_eq], hbare⟩
    | ge | gt | le | lt | eq | ne | unsupported => cases ho
  | false =>
    rw [walk?_comparison ho] at h
    obtain ⟨operands, results, ks⟩ := w
    rcases operands with - | ⟨left, - | ⟨right, rest⟩⟩
    · cases h
    · cases h
    · have htakes : o.takes leading (left :: right :: rest).length = 2 := by
        rw [Operator.takes, Operator.leaves_comparison ho, List.length_cons, List.length_cons]
        omega
      have hreading : o.reading [left, right] = [.comparison o left right] := by
        rw [Operator.reading, ho]
        rfl
      refine ⟨_, h, ?_, ?_⟩
      · rw [htakes]
        rfl
      · rw [htakes]
        exact hreading ▸ Walked.comparison ho left right rest results ks

/-- **The whole walk.** -/
theorem walked_of_walk? (h : walk? leading w os = .ok w') : Walked w os (readings leading w.operands os) w' := by
  induction os generalizing leading w with
  | nil =>
    injection h with h
    rw [← h]
    exact .refl w
  | cons o os ih =>
    obtain ⟨w₁, hrest, hoperands, hstep⟩ := walked_step h
    have hwalked := ih hrest
    rw [hoperands] at hwalked
    exact hstep.append hwalked

/-- Where all operators are `&&`, nothing is read. -/
theorem readings_of_all_and {operands : List (List Char)} (h : ∀ o ∈ os, o = .and) :
    readings leading operands os = [] := by
  induction os generalizing leading operands with
  | nil => rfl
  | cons o os ih =>
    have ho : o = .and := h o List.mem_cons_self
    have hnone : Operator.and.takes leading operands.length = 0 := Nat.sub_self _
    rw [readings, ho, hnone, ih fun o ho => h o (List.mem_cons_of_mem _ ho)]
    rfl

end Walking

/-! ## Combining -/

/-- Pending values and disjuncts that are related one by one. -/
def Related (R : Bool → Bool → Prop) (s s' : List Bool × List Bool) : Prop :=
  List.Forall₂ R s.1 s'.1 ∧ List.Forall₂ R s.2 s'.2

section Relations

variable {R : Bool → Bool → Prop} {s s' : List Bool × List Bool}

theorem Related.settle (h : Related R s s') : Related R (settle s) (settle s') := by
  obtain ⟨pending, disjuncts⟩ := s
  obtain ⟨pending', disjuncts'⟩ := s'
  obtain ⟨hpending, hdisjuncts⟩ := h
  cases hpending with
  | nil => exact ⟨.nil, hdisjuncts⟩
  | cons hb htail =>
    cases htail with
    | nil => exact ⟨.nil, List.rel_append hdisjuncts (.cons hb .nil)⟩
    | cons hb' htail => exact ⟨.cons hb (.cons hb' htail), hdisjuncts⟩

/-- **One combinator.** Two runs that are related stay so when `&&` respects the relation and values that are
    missing in both are related. -/
theorem Related.combineStep (hfalse : R false false)
    (hand : ∀ a a' b b', R a a' → R b b' → R (a && b) (a' && b')) (h : Related R s s') (k : Combinator) :
    Related R (combineStep s k) (combineStep s' k) := by
  obtain ⟨pending, disjuncts⟩ := s
  obtain ⟨pending', disjuncts'⟩ := s'
  obtain ⟨hpending, hdisjuncts⟩ := h
  have hhead {xs ys : List Bool} (hxs : List.Forall₂ R xs ys) : R (xs.headD false) (ys.headD false) := by
    cases hxs with
    | nil => exact hfalse
    | cons hb _ => exact hb
  have hdrop (n : Nat) : List.Forall₂ R (pending.drop n) (pending'.drop n) := List.forall₂_drop n hpending
  cases k with
  | and => exact Related.settle ⟨.cons (hand _ _ _ _ (hhead hpending) (hhead (hdrop 1))) (hdrop 2), hdisjuncts⟩
  | or => exact Related.settle ⟨hdrop 1, List.rel_append hdisjuncts (.cons (hhead hpending) .nil)⟩

theorem Related.foldl (hfalse : R false false) (hand : ∀ a a' b b', R a a' → R b b' → R (a && b) (a' && b'))
    (h : Related R s s') (ks : List Combinator) :
    Related R (ks.foldl Condition.combineStep s) (ks.foldl Condition.combineStep s') := by
  induction ks generalizing s s' with
  | nil => exact h
  | cons k ks ih => exact ih (h.combineStep hfalse hand k)

end Relations

section Values

variable {ks : List Combinator} {xs ys : List Bool}

theorem any_mono (h : List.Forall₂ (· ≤ ·) xs ys) (hx : xs.any id = true) : ys.any id = true := by
  induction h with
  | nil => exact hx
  | cons hb _ ih =>
    rw [List.any_cons, Bool.or_eq_true] at hx ⊢
    exact hx.imp hb ih

theorem all_mono (h : List.Forall₂ (· ≤ ·) xs ys) (hx : xs.all id = true) : ys.all id = true := by
  induction h with
  | nil => exact hx
  | cons hb _ ih =>
    rw [List.all_cons, Bool.and_eq_true] at hx ⊢
    exact ⟨hb hx.1, ih hx.2⟩

/-- **More truth, no less granted.** Combining values of which each is at least as true gives what is at least as
    true. -/
theorem combine_mono (h : List.Forall₂ (· ≤ ·) xs ys) (hx : combine ks xs = true) : combine ks ys = true := by
  have hand : ∀ a a' b b' : Bool, a ≤ a' → b ≤ b' → (a && b) ≤ (a' && b') := by decide
  have hfold : Related (· ≤ ·) (ks.foldl combineStep (xs, [])) (ks.foldl combineStep (ys, [])) :=
    Related.foldl (by decide) hand ⟨h, .nil⟩ ks
  revert hx
  unfold combine
  cases ks.contains Combinator.and with
  | false =>
    cases ks.contains Combinator.or with
    | false =>
      intro hx
      cases h with
      | nil => exact hx
      | cons hb _ => exact hb hx
    | true => exact any_mono h
  | true =>
    cases ks.contains Combinator.or with
    | false => exact all_mono h
    | true => exact any_mono hfold.2

theorem any_of_all_false (h : ∀ x ∈ xs, x = false) : xs.any id = false := by
  rw [List.any_eq_false]
  intro x hx
  simp [h x hx]

/-- **No truth out of nothing.** False values are combined to false, unless there is nothing but `&&`. -/
theorem combine_of_all_false (h : ∀ x ∈ xs, x = false) (hsome : xs ≠ [] ∨ .or ∈ ks ∨ .and ∉ ks) :
    combine ks xs = false := by
  unfold combine
  cases hand : ks.contains Combinator.and with
  | false =>
    cases ks.contains Combinator.or with
    | false =>
      cases xs with
      | nil => rfl
      | cons x xs => exact h x List.mem_cons_self
    | true => exact any_of_all_false h
  | true =>
    cases hor : ks.contains Combinator.or with
    | false =>
      have hne : xs ≠ [] := by
        rcases hsome with hne | hmem | hmem
        · exact hne
        · simp [hmem] at hor
        · simp [hmem] at hand
      obtain ⟨x, xs, rfl⟩ := List.exists_cons_of_ne_nil hne
      show (x && xs.all id) = false
      rw [h x List.mem_cons_self, Bool.false_and]
    | true =>
      -- the loop runs beside itself, and in both runs every value is false
      have hboth : List.Forall₂ (fun x y => x = false ∧ y = false) xs xs := by
        rw [List.forall₂_same]
        intro x hx
        exact ⟨h x hx, h x hx⟩
      have hand : ∀ a a' b b' : Bool, a = false ∧ a' = false → b = false ∧ b' = false →
          (a && b) = false ∧ (a' && b') = false := by decide
      have hfold : Related (fun x y => x = false ∧ y = false) (ks.foldl combineStep (xs, []))
          (ks.foldl combineStep (xs, [])) := Related.foldl ⟨rfl, rfl⟩ hand ⟨hboth, .nil⟩ ks
      apply any_of_all_false
      intro x hx
      exact (List.forall₂_same.mp hfold.2 x hx).1

end Values

/-! ## Conditions -/

section Conditions

variable {leading : Bool} {w w' : Walk} {os : List Operator} {rs : List Reading} {t : Tokens} {b : Bool}

/-- The values of a condition that has an operator besides `&&` are combined by more than `&&`, or there is one. -/
theorem Walked.results_or_combinators (h : Walked w os rs w') (hother : ¬ ∀ o ∈ os, o = .and) :
    w'.results ≠ [] ∨ .or ∈ w'.combinators ∨ .and ∉ w'.combinators := by
  obtain ⟨o, ho, hne⟩ : ∃ o ∈ os, o ≠ .and := by simpa using hother
  cases hkind : o.isCombinator with
  | true =>
    have hor : o.combinator? = some .or := by
      cases o with
      | and => exact absurd rfl hne
      | or => rfl
      | ge | gt | le | lt | eq | ne | unsupported => cases hkind
    refine .inr (.inl ?_)
    rw [h.combinators]
    exact List.mem_append_right _ (List.mem_filterMap.mpr ⟨o, ho, hor⟩)
  | false =>
    have hmem : o ∈ Condition.comparisons os := List.mem_filter.mpr ⟨ho, by rw [hkind]; rfl⟩
    rw [← h.comparisons] at hmem
    obtain ⟨r, hr, -⟩ := List.mem_filterMap.mp hmem
    refine .inl ?_
    rw [h.results]
    exact List.append_ne_nil_of_right_ne_nil _ (List.ne_nil_of_mem (List.mem_map_of_mem hr))

/-- The truth value of tokens is what the walk collects, combined. -/
theorem walked_of_truth? (h : t.truth? = .ok b) :
    ∃ w, walk? true ⟨t.operands, [], []⟩ t.operators = .ok w ∧
      Walked ⟨t.operands, [], []⟩ t.operators t.readings w ∧ combine w.combinators w.results = b := by
  unfold Tokens.truth? at h
  cases hw : walk? true ⟨t.operands, [], []⟩ t.operators with
  | error o =>
    rw [hw] at h
    cases h
  | ok w =>
    rw [hw] at h
    injection h with h
    exact ⟨w, rfl, walked_of_walk? hw, h⟩

theorem exists_reading_true (h : t.truth? = .ok true) (hother : ¬ ∀ o ∈ t.operators, o = .and) :
    ∃ r ∈ t.readings, r.truth = true := by
  obtain ⟨w, -, hwalked, hb⟩ := walked_of_truth? h
  by_contra hnone
  have hfalse : ∀ x ∈ w.results, x = false := by
    intro x hx
    rw [hwalked.results, List.nil_append] at hx
    obtain ⟨r, hr, rfl⟩ := List.mem_map.mp hx
    exact Bool.eq_false_iff.mpr fun htrue => hnone ⟨r, hr, htrue⟩
  rw [combine_of_all_false hfalse (hwalked.results_or_combinators hother)] at hb
  cases hb

/-- Nothing is read between `&&`, and all of nothing is true. -/
theorem truth?_of_all_and (h : t.truth? = .ok b) (hrest : t.rest ≠ []) (hand : ∀ o ∈ t.operators, o = .and) :
    t.readings = [] ∧ b = true := by
  have hreadings : t.readings = [] := readings_of_all_and hand
  obtain ⟨w, -, hwalked, rfl⟩ := walked_of_truth? h
  refine ⟨hreadings, ?_⟩
  have hresults : w.results = [] := by
    rw [hwalked.results, hreadings]
    rfl
  have hcombinators : w.combinators = t.operators.filterMap Operator.combinator? := hwalked.combinators
  have hmem : Combinator.and ∈ w.combinators := by
    obtain ⟨⟨o, s⟩, ho⟩ := List.exists_mem_of_ne_nil _ hrest
    have hop : o ∈ t.operators := List.mem_map_of_mem ho
    rw [hcombinators]
    exact List.mem_filterMap.mpr ⟨o, hop, by rw [hand o hop]; rfl⟩
  have hor : Combinator.or ∉ w.combinators := by
    intro hmem
    rw [hcombinators] at hmem
    obtain ⟨o, ho, hk⟩ := List.mem_filterMap.mp hmem
    rw [hand o ho] at hk
    cases hk
  unfold combine
  rw [List.contains_iff_mem.mpr hmem, Bool.eq_false_iff.mpr (mt List.contains_iff_mem.mp hor), hresults]
  rfl

end Conditions

/-- **What a truth value rests on.** If a condition has a truth value, it is what the truth values of its
    readings are combined to. It is true only if one of the readings is, or if all operators are `&&`; then
    nothing is read and the condition is true. Combining respects the order of truth values. -/
theorem truth_rests_on_readings :
    (∀ (mode : Mode) (row : Row) (condition : String) (b : Bool), evaluate mode row condition = .ok b →
      let t := tokenize (substitute mode row (stripSpaces condition.toList))
      (∃ w, walk? true ⟨t.operands, [], []⟩ t.operators = .ok w ∧
          Walked ⟨t.operands, [], []⟩ t.operators t.readings w ∧ combine w.combinators w.results = b) ∧
        (b = true → (∃ r ∈ t.readings, r.truth = true) ∨ ∀ o ∈ t.operators, o = .and) ∧
        ((∀ o ∈ t.operators, o = .and) → t.readings = [] ∧ b = true)) ∧
      ∀ (ks : List Combinator) (xs ys : List Bool), List.Forall₂ (· ≤ ·) xs ys →
        combine ks xs = true → combine ks ys = true := by
  refine ⟨?_, fun ks xs ys h hx => combine_mono h hx⟩
  intro mode row condition b h t
  obtain ⟨-, htext⟩ := evaluate_eq_ok_iff.mp h
  obtain ⟨-, hrest, htruth⟩ := evaluateText_eq_ok_iff.mp htext
  refine ⟨walked_of_truth? htruth, ?_, truth?_of_all_and htruth hrest⟩
  rintro rfl
  by_cases hand : ∀ o ∈ t.operators, o = .and
  · exact .inr hand
  · exact .inl (exists_reading_true htruth hand)

/-- The operand in front of a leading `||` is the only one that is true, and a value is missing for the last `&&`;
    a condition of `&&` alone reads none of its operands. -/
theorem truth_rests_on_readings_degenerate :
    evaluate .literal (Keyed.ofList []) "7 || 1>2 && 0 && 3>4" = .ok true ∧
      (∃ r ∈ (tokenize "7||1>2&&0&&3>4".toList).readings, r.truth = true) ∧
      evaluate .literal (Keyed.ofList []) "0 && 0" = .ok true ∧
      (tokenize "0&&0".toList).readings = [] ∧
      combine [.or, .and] [false, true] = true ∧ combine [.or, .and] [true, true] = true := by
  have hbare : evaluate .literal (Keyed.ofList []) "7 || 1>2 && 0 && 3>4" = .ok true := by decide +kernel
  have hand : evaluate .literal (Keyed.ofList []) "0 && 0" = .ok true := by decide +kernel
  have hcombine : combine [.or, .and] [false, true] = true := by decide
  have hbareText : substitute .literal (Keyed.ofList []) (stripSpaces "7 || 1>2 && 0 && 3>4".toList) =
      "7||1>2&&0&&3>4".toList := by decide +kernel
  have handText : substitute .literal (Keyed.ofList []) (stripSpaces "0 && 0".toList) = "0&&0".toList := by
    decide +kernel
  obtain ⟨-, hwitness, -⟩ := truth_rests_on_readings.1 _ _ _ _ hbare
  obtain ⟨-, -, hnothing⟩ := truth_rests_on_readings.1 _ _ _ _ hand
  rw [hbareText] at hwitness
  rw [handText] at hnothing
  refine ⟨hbare, ?_, hand, (hnothing (by decide)).1, hcombine, ?_⟩
  · rcases hwitness rfl with hreading | hall
    · exact hreading
    · exact absurd hall (by decide)
  · exact truth_rests_on_readings.2 _ _ _ (.cons (by decide) (.cons (by decide) .nil)) hcombine

end Entitlement.Condition
