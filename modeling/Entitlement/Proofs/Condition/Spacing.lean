import Entitlement.Condition.Evaluation

/-!
# `Entitlement.Proofs.Condition.Spacing` — spacing in a condition

Spacing may stand anywhere in a condition, also inside names and operators: the evaluation only sees the text
that is left without it (`evaluate_of_spaced`). Over a row without attributes that text is all there is
(`evaluate_empty`).
-/

namespace Entitlement.Condition

open Attribute (Row)

/-- `t` is `s` with spacing put in at any positions. -/
inductive Spaced : List Char → List Char → Prop where
  | nil : Spaced [] []
  | keep {c : Char} {s t : List Char} : Spaced s t → Spaced (c :: s) (c :: t)
  | space {c : Char} {s t : List Char} : isSpacing c = true → Spaced s t → Spaced s (c :: t)

theorem Spaced.refl (s : List Char) : Spaced s s := by
  induction s with
  | nil => exact .nil
  | cons c s ih => exact .keep ih

/-- Stripping removes what was put in. -/
theorem stripSpaces_of_spaced {s t : List Char} (h : Spaced s t) (hs : ∀ c ∈ s, isSpacing c = false) :
    stripSpaces t = s := by
  induction h with
  | nil => rfl
  | @keep c s t _ ih =>
    have hc : isSpacing c = false := hs c List.mem_cons_self
    have ih := ih fun x hx => hs x (List.mem_cons_of_mem c hx)
    rw [stripSpaces, List.filter_cons_of_pos (by rw [hc]; rfl)]
    exact congrArg (c :: ·) ih
  | @space c s t hc _ ih =>
    rw [stripSpaces, List.filter_cons_of_neg (by rw [hc]; decide)]
    exact ih hs

/-- Every text is its stripped form with spacing put in. -/
theorem spaced_stripSpaces (t : List Char) : Spaced (stripSpaces t) t := by
  induction t with
  | nil => exact .nil
  | cons c t ih =>
    rw [stripSpaces]
    cases hc : isSpacing c with
    | true =>
      rw [List.filter_cons_of_neg (by rw [hc]; decide)]
      exact .space hc ih
    | false =>
      rw [List.filter_cons_of_pos (by rw [hc]; rfl)]
      exact .keep ih

theorem spaced_of_stripSpaces {s t : List Char} (h : stripSpaces t = s) : Spaced s t := by
  rw [← h]
  exact spaced_stripSpaces t

/-- The evaluation of a condition is that of the text which spacing was put into. -/
theorem evaluate_of_spaced {mode : Mode} {row : Row} {s : List Char} {condition : String}
    (h : Spaced s condition.toList) (hs : ∀ c ∈ s, isSpacing c = false) (hne : s ≠ []) :
    evaluate mode row condition = evaluateText (substitute mode row s) := by
  rw [evaluate, stripSpaces_of_spaced h hs]
  exact if_neg hne

/-- A text without spacing is evaluated as it stands where there are no attributes. -/
theorem evaluate_empty (mode : Mode) {s : List Char} (hs : ∀ c ∈ s, isSpacing c = false) (hne : s ≠ []) :
    evaluate mode ∅ (String.ofList s) = evaluateText s := by
  have hspaced : Spaced s (String.ofList s).toList := by
    rw [String.toList_ofList]
    exact Spaced.refl s
  have hkept : substitute mode ∅ s = s := rfl
  rw [evaluate_of_spaced hspaced hs hne, hkept]

end Entitlement.Condition
