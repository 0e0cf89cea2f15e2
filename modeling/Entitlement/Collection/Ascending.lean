/-!
# `Entitlement.Collection.Ascending` — a finite set, listed in ascending order

An `Ascending α` is a strictly ascending list. Two of them with the same members are the same list, so
answers that are sets can be compared for equality.

## Contents
- **The type** with its membership reading.
- **`insert`**, `ofList`, `union`, each read back by a `mem_` lemma.
- **`ext`**: equal members, equal sets.
-/

namespace Entitlement

/-- A finite set, as the list of its members in strictly ascending order. -/
structure Ascending (α : Type) [Ord α] where
  toList : List α
  ordered : toList.Pairwise (fun a b => compare a b = .lt)

namespace Ascending

variable {α : Type} [Ord α]

/-- The set without members. -/
def empty : Ascending α := ⟨[], .nil⟩

instance : EmptyCollection (Ascending α) := ⟨empty⟩

instance : Inhabited (Ascending α) := ⟨empty⟩

instance : Membership α (Ascending α) := ⟨fun s x => x ∈ s.toList⟩

instance [DecidableEq α] : DecidableEq (Ascending α) := fun s t =>
  decidable_of_iff (s.toList = t.toList) ⟨fun h => by cases s; cases t; simp_all, fun h => h ▸ rfl⟩

/-- The number of members. -/
def size (s : Ascending α) : Nat := s.toList.length

/-- Whether there is no member. -/
def isEmpty (s : Ascending α) : Bool := s.toList.isEmpty

/-- Whether a value is a member. -/
def contains [DecidableEq α] (s : Ascending α) (x : α) : Bool := decide (x ∈ s.toList)

theorem mem_def {s : Ascending α} {x : α} : x ∈ s ↔ x ∈ s.toList := Iff.rfl

@[simp] theorem not_mem_empty (x : α) : ¬ x ∈ (∅ : Ascending α) := List.not_mem_nil

theorem not_mem_of_isEmpty {s : Ascending α} (h : s.isEmpty = true) (x : α) : ¬ x ∈ s := by
  rw [mem_def, List.isEmpty_iff.mp h]
  exact List.not_mem_nil

@[simp] theorem contains_iff [DecidableEq α] {s : Ascending α} {x : α} :
    s.contains x = true ↔ x ∈ s := by
  simp [contains, mem_def]

/-! ## Insertion -/

/-- The ascending list with one more member. -/
def place (x : α) : List α → List α
  | [] => [x]
  | y :: ys =>
    match compare x y with
    | .lt => x :: y :: ys
    | .eq => y :: ys
    | .gt => y :: place x ys

variable [Std.TransOrd α] [Std.LawfulEqOrd α]

omit [Std.TransOrd α] in
theorem mem_place {x z : α} {ys : List α} : z ∈ place x ys ↔ z = x ∨ z ∈ ys := by
  induction ys with
  | nil => simp [place]
  | cons y ys ih =>
    unfold place
    cases h : compare x y with
    | lt => simp
    | eq =>
      obtain rfl : x = y := Std.compare_eq_iff_eq.mp h
      simp
    | gt =>
      simp only [List.mem_cons, ih]
      exact ⟨by rintro (h | h | h) <;> simp [h], by rintro (h | h | h) <;> simp [h]⟩

theorem ordered_place {x : α} {ys : List α}
    (h : ys.Pairwise (fun a b => compare a b = .lt)) :
    (place x ys).Pairwise (fun a b => compare a b = .lt) := by
  induction ys with
  | nil => simp [place]
  | cons y ys ih =>
    unfold place
    obtain ⟨hy, hys⟩ := List.pairwise_cons.mp h
    cases hxy : compare x y with
    | lt =>
      refine List.pairwise_cons.mpr ⟨?_, h⟩
      intro b hb
      rcases List.mem_cons.mp hb with rfl | hb
      · exact hxy
      · exact Std.TransCmp.lt_trans hxy (hy b hb)
    | eq => exact h
    | gt =>
      refine List.pairwise_cons.mpr ⟨?_, ih hys⟩
      intro b hb
      rcases mem_place.mp hb with rfl | hb
      · exact Std.OrientedCmp.lt_of_gt hxy
      · exact hy b hb

/-- The set with one more member. -/
def insert (s : Ascending α) (x : α) : Ascending α := ⟨place x s.toList, ordered_place s.ordered⟩

@[simp] theorem mem_insert {s : Ascending α} {x z : α} : z ∈ s.insert x ↔ z = x ∨ z ∈ s :=
  mem_place

/-- The set with all the members of a list added. -/
def insertAll (s : Ascending α) (xs : List α) : Ascending α := xs.foldl insert s

@[simp] theorem mem_insertAll {s : Ascending α} {xs : List α} {z : α} :
    z ∈ s.insertAll xs ↔ z ∈ xs ∨ z ∈ s := by
  induction xs generalizing s with
  | nil => simp [insertAll]
  | cons x xs ih =>
    show z ∈ (s.insert x).insertAll xs ↔ _
    rw [ih, mem_insert, List.mem_cons]
    exact ⟨by rintro (h | h | h) <;> simp [h], by rintro ((h | h) | h) <;> simp [h]⟩

/-- The set of the members of a list. -/
def ofList (xs : List α) : Ascending α := insertAll ∅ xs

@[simp] theorem mem_ofList {xs : List α} {z : α} : z ∈ ofList xs ↔ z ∈ xs := by
  simp [ofList]

/-- The members of either set. -/
def union (s t : Ascending α) : Ascending α := s.insertAll t.toList

@[simp] theorem mem_union {s t : Ascending α} {z : α} : z ∈ s.union t ↔ z ∈ t ∨ z ∈ s := by
  simp [union, mem_def (s := t)]

/-! ## Extensionality -/

omit [Std.LawfulEqOrd α] in
theorem eq_of_mem_iff {xs ys : List α} (hx : xs.Pairwise (fun a b => compare a b = .lt))
    (hy : ys.Pairwise (fun a b => compare a b = .lt)) (h : ∀ z, z ∈ xs ↔ z ∈ ys) : xs = ys := by
  induction xs generalizing ys with
  | nil =>
    cases ys with
    | nil => rfl
    | cons y ys => exact absurd ((h y).mpr (by simp)) (by simp)
  | cons x xs ih =>
    cases ys with
    | nil => exact absurd ((h x).mp (by simp)) (by simp)
    | cons y ys =>
      obtain ⟨hx₁, hx₂⟩ := List.pairwise_cons.mp hx
      obtain ⟨hy₁, hy₂⟩ := List.pairwise_cons.mp hy
      have irrefl : ∀ a : α, compare a a ≠ .lt := fun a e => by
        have self : compare a a = .eq := Std.ReflCmp.compare_self
        rw [self] at e
        exact absurd e (by decide)
      have hxy : x = y := by
        rcases List.mem_cons.mp ((h x).mp (by simp)) with e | hx'
        · exact e
        rcases List.mem_cons.mp ((h y).mpr (by simp)) with e | hy'
        · exact e.symm
        exact absurd (Std.TransCmp.lt_trans (hx₁ y hy') (hy₁ x hx')) (irrefl x)
      subst hxy
      congr 1
      refine ih hx₂ hy₂ fun z => ?_
      have := h z
      simp only [List.mem_cons] at this
      constructor
      · intro hz
        rcases this.mp (.inr hz) with rfl | hz'
        · exact absurd (hx₁ z hz) (irrefl z)
        · exact hz'
      · intro hz
        rcases this.mpr (.inr hz) with rfl | hz'
        · exact absurd (hy₁ z hz) (irrefl z)
        · exact hz'

omit [Std.LawfulEqOrd α] in
/-- Two sets with the same members are equal. -/
theorem ext {s t : Ascending α} (h : ∀ z, z ∈ s ↔ z ∈ t) : s = t := by
  obtain ⟨xs, hx⟩ := s
  obtain ⟨ys, hy⟩ := t
  have : xs = ys := eq_of_mem_iff hx hy h
  subst this
  rfl

end Ascending

end Entitlement
