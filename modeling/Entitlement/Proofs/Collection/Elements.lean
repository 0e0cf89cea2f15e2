import Mathlib.Data.List.Perm.Basic

/-!
# `Entitlement.Proofs.Collection.Elements` — lists, element by element

Either every element of a list has a property, or there is a first one that has not (`forall_or_first`). A
traversal that reads the elements gives all that was read in the first case (`mapM_ok`), and the error of that
element in the second (`mapM_error`). A list can be taken apart at the elements of a class, stretch by stretch
(`cut_induction`). A search for the only element with a property finds it wherever it stands
(`find?_eq_some_iff`), and two nested passes find the same in either order (`flatMap_comm`).
-/

namespace Entitlement

variable {α β ε : Type}

/-- All elements have a property, or there is a first one that has not. -/
theorem forall_or_first (p : α → Prop) (xs : List α) :
    (∀ x ∈ xs, p x) ∨
      ∃ front x back, xs = front ++ x :: back ∧ (∀ y ∈ front, p y) ∧ ¬ p x := by
  induction xs with
  | nil => exact .inl fun x hx => absurd hx List.not_mem_nil
  | cons x xs ih =>
    by_cases hx : p x
    · rcases ih with h | ⟨front, y, back, rfl, hfront, hy⟩
      · exact .inl (List.forall_mem_cons.mpr ⟨hx, h⟩)
      · exact .inr ⟨x :: front, y, back, rfl, List.forall_mem_cons.mpr ⟨hx, hfront⟩, hy⟩
    · exact .inr ⟨[], x, xs, rfl, fun y hy => absurd hy List.not_mem_nil, hx⟩

/-- Induction over a list that is cut at the elements of a class: a stretch without such elements, and a stretch
    with one behind it and a list behind that. -/
@[elab_as_elim]
theorem cut_induction {p : α → Bool} {motive : List α → Prop}
    (stretch : ∀ s, (∀ y ∈ s, p y = false) → motive s)
    (cut : ∀ s x rest, (∀ y ∈ s, p y = false) → p x = true → motive rest → motive (s ++ x :: rest))
    (xs : List α) : motive xs := by
  -- the stretch read so far grows until an element of the class ends it
  suffices h : ∀ s, (∀ y ∈ s, p y = false) → motive (s ++ xs) from h [] fun y hy => absurd hy List.not_mem_nil
  induction xs with
  | nil =>
    intro s hs
    rw [List.append_nil]
    exact stretch s hs
  | cons x rest ih =>
    intro s hs
    cases hx : p x with
    | true => exact cut s x rest hs hx (ih [] fun y hy => absurd hy List.not_mem_nil)
    | false =>
      rw [List.append_cons]
      apply ih
      intro y hy
      rcases List.mem_append.mp hy with hy | hy
      · exact hs y hy
      · rw [List.mem_singleton.mp hy, hx]

/-- **A selected element is unique.** Among the elements with a property, one that takes precedence over those in
    front of it and over those behind it is the only one that does. -/
theorem eq_of_selected {p : α → Prop} {ahead behind : α → α → Prop} (hexcl : ∀ x y, behind x y → ¬ ahead y x)
    {front back front' back' : List α} {x y : α} (h : front ++ x :: back = front' ++ y :: back')
    (hx : p x) (hy : p y)
    (hfront : ∀ z ∈ front, p z → ahead x z) (hback : ∀ z ∈ back, p z → behind x z)
    (hfront' : ∀ z ∈ front', p z → ahead y z) (hback' : ∀ z ∈ back', p z → behind y z) : x = y := by
  rcases List.append_eq_append_iff.mp h with ⟨between, rfl, hbetween⟩ | ⟨between, rfl, hbetween⟩
  · rcases List.cons_eq_append_iff.mp hbetween with ⟨-, he⟩ | ⟨rest, rfl, rfl⟩
    · exact (List.cons.inj he).1.symm
    · exact absurd (hfront' x (by simp) hx) (hexcl x y (hback y (by simp) hy))
  · rcases List.cons_eq_append_iff.mp hbetween with ⟨-, he⟩ | ⟨rest, rfl, rfl⟩
    · exact (List.cons.inj he).1
    · exact absurd (hfront y (by simp) hy) (hexcl y x (hback' x (by simp) hx))

/-- No element passes a test that its negation passes everywhere. -/
theorem forall_mem_of_all {p : α → Bool} {xs : List α} (h : xs.all (fun x => !p x) = true) :
    ∀ x ∈ xs, p x = false := by
  intro x hx
  have hnot := List.all_eq_true.mp h x hx
  rw [Bool.not_eq_true'] at hnot
  exact hnot

variable {f : α → Except ε β}

/-- When every element can be read, the traversal gives what they read as. -/
theorem mapM_ok {xs : List α} (h : ∀ x ∈ xs, ∃ y, f x = .ok y) :
    ∃ ys, xs.mapM f = .ok ys ∧ ∀ y, y ∈ ys ↔ ∃ x ∈ xs, f x = .ok y := by
  induction xs with
  | nil =>
    refine ⟨[], rfl, fun y => ⟨fun hy => absurd hy List.not_mem_nil, ?_⟩⟩
    rintro ⟨x, hx, -⟩
    exact absurd hx List.not_mem_nil
  | cons x xs ih =>
    obtain ⟨hx, hxs⟩ := List.forall_mem_cons.mp h
    obtain ⟨y, hy⟩ := hx
    obtain ⟨ys, hys, hmem⟩ := ih hxs
    refine ⟨y :: ys, ?_, fun z => ?_⟩
    · rw [List.mapM_cons, hy, hys]
      rfl
    · rw [List.mem_cons, hmem]
      constructor
      · rintro (rfl | ⟨x', hx', hz⟩)
        · exact ⟨x, List.mem_cons_self, hy⟩
        · exact ⟨x', List.mem_cons_of_mem x hx', hz⟩
      · rintro ⟨x', hx', hz⟩
        rcases List.mem_cons.mp hx' with rfl | hx'
        · rw [hy, Except.ok.injEq] at hz
          exact .inl hz.symm
        · exact .inr ⟨x', hx', hz⟩

/-- The first element that cannot be read is the error of the traversal. -/
theorem mapM_error {front back : List α} {x : α} {e : ε} (hfront : ∀ y ∈ front, ∃ z, f y = .ok z)
    (hx : f x = .error e) : (front ++ x :: back).mapM f = .error e := by
  obtain ⟨ys, hys, -⟩ := mapM_ok hfront
  rw [List.mapM_append, hys, List.mapM_cons, hx]
  rfl

/-- When every element can be read, the traversal gives what they read as, in order. -/
theorem mapM_eq_map {xs : List α} {g : α → β} (h : ∀ x ∈ xs, f x = .ok (g x)) :
    xs.mapM f = .ok (xs.map g) := by
  induction xs with
  | nil => rfl
  | cons x xs ih =>
    obtain ⟨hx, hxs⟩ := List.forall_mem_cons.mp h
    rw [List.mapM_cons, hx, ih hxs]
    rfl

/-- The only element with a property is found. -/
theorem find?_eq_some_iff {p : α → Bool} {xs : List α}
    (hunique : ∀ x ∈ xs, ∀ y ∈ xs, p x = true → p y = true → x = y) {x : α} :
    xs.find? p = some x ↔ x ∈ xs ∧ p x = true := by
  constructor
  · exact fun h => ⟨List.mem_of_find?_eq_some h, List.find?_some h⟩
  · rintro ⟨hx, hp⟩
    cases h : xs.find? p with
    | none => exact absurd hp (List.find?_eq_none.mp h x hx)
    | some y => rw [hunique y (List.mem_of_find?_eq_some h) x hx (List.find?_some h) hp]

theorem map_filter_eq_flatMap (g : α → β) (p : α → Bool) (xs : List α) :
    (xs.filter p).map g = xs.flatMap fun x => if p x then [g x] else [] := by
  induction xs with
  | nil => rfl
  | cons x xs ih =>
    rw [List.filter_cons, List.flatMap_cons, ← ih]
    by_cases hx : p x = true
    · rw [if_pos hx, if_pos hx]
      rfl
    · rw [if_neg hx, if_neg hx]
      rfl

/-- Two nested passes find the same, whichever is the outer one. -/
theorem flatMap_comm {γ : Type} (xs : List α) (ys : List β) (h : α → β → List γ) :
    (xs.flatMap fun x => ys.flatMap fun y => h x y).Perm (ys.flatMap fun y => xs.flatMap fun x => h x y) := by
  induction xs with
  | nil =>
    have hnil : (ys.flatMap fun y => [].flatMap fun x => h x y) = [] := List.flatMap_eq_nil_iff.mpr fun _ _ => rfl
    rw [hnil, List.flatMap_nil]
  | cons x xs ih =>
    rw [List.flatMap_cons]
    exact (ih.append_left _).trans (List.flatMap_append_perm ys (h x) fun y => xs.flatMap fun x => h x y)

end Entitlement
