import Entitlement.Text.Blank
import Mathlib.Data.List.TakeWhile

/-!
# `Entitlement.Proofs.Text.Trimming` — what trimming leaves

A text is what trimming leaves of it, between two stretches of the characters that are taken off. What is left begins
and ends with other characters, and that determines it (`trimWhere_eq_iff`).
-/

namespace Entitlement.Text

variable {p : Char → Bool} {s w before after : List Char}

/-- A text neither begins nor ends with a character of the class. -/
structure Bare (p : Char → Bool) (s : List Char) : Prop where
  head : ∀ c ∈ s.head?, p c = false
  last : ∀ c ∈ s.getLast?, p c = false

theorem Bare.nil : Bare p [] := ⟨fun _ h => (nomatch h), fun _ h => (nomatch h)⟩

/-- Dropping from the front ends where a text begins with another character. -/
theorem dropWhile_append_of_head (hbefore : ∀ c ∈ before, p c = true) (hs : ∀ c ∈ s.head?, p c = false) :
    (before ++ s).dropWhile p = s := by
  rw [List.dropWhile_append_of_pos hbefore]
  cases s with
  | nil => rfl
  | cons c rest =>
    apply List.dropWhile_cons_of_neg
    rw [hs c rfl]
    exact Bool.false_ne_true

theorem head?_dropWhile : ∀ c ∈ (s.dropWhile p).head?, p c = false := by
  intro c hc
  have h := List.head?_dropWhile_not p s
  rw [Option.mem_def.mp hc] at h
  exact h

theorem trimWhere_append (hbefore : ∀ c ∈ before, p c = true) (hafter : ∀ c ∈ after, p c = true) (hw : Bare p w) :
    trimWhere p (before ++ (w ++ after)) = w := by
  have hreverse : ∀ c ∈ after.reverse, p c = true := fun c hc => hafter c (List.mem_reverse.mp hc)
  unfold trimWhere
  cases w with
  | nil =>
    have hall : ∀ c ∈ before ++ after, p c = true := List.forall_mem_append.mpr ⟨hbefore, hafter⟩
    rw [List.nil_append, List.dropWhile_eq_nil_iff.mpr hall]
    rfl
  | cons c rest =>
    have hfront : (before ++ (c :: rest ++ after)).dropWhile p = c :: rest ++ after :=
      dropWhile_append_of_head hbefore hw.head
    have hback : (after.reverse ++ (c :: rest).reverse).dropWhile p = (c :: rest).reverse := by
      apply dropWhile_append_of_head hreverse
      rw [List.head?_reverse]
      exact hw.last
    rw [hfront, List.reverse_append, hback, List.reverse_reverse]

theorem bare_trimWhere (p : Char → Bool) (s : List Char) : Bare p (trimWhere p s) := by
  constructor
  · intro c hc
    exact head?_trimWhere hc
  · rw [trimWhere, List.getLast?_reverse]
    exact head?_dropWhile

/-- A text is what is left of it, between characters of the class. -/
theorem exists_trimWhere (p : Char → Bool) (s : List Char) :
    ∃ before after, s = before ++ (trimWhere p s ++ after) ∧ (∀ c ∈ before, p c = true) ∧
      ∀ c ∈ after, p c = true := by
  have hfront := List.takeWhile_append_dropWhile (p := p) (l := s)
  have hback := List.takeWhile_append_dropWhile (p := p) (l := (s.dropWhile p).reverse)
  refine ⟨s.takeWhile p, ((s.dropWhile p).reverse.takeWhile p).reverse, ?_, ?_, ?_⟩
  · rw [trimWhere, ← List.reverse_append, hback, List.reverse_reverse, hfront]
  · exact List.all_eq_true.mp List.all_takeWhile
  · intro c hc
    exact List.all_eq_true.mp List.all_takeWhile c (List.mem_reverse.mp hc)

/-- **What trimming leaves.** -/
theorem trimWhere_eq_iff :
    trimWhere p s = w ↔ ∃ before after, s = before ++ (w ++ after) ∧ (∀ c ∈ before, p c = true) ∧
      (∀ c ∈ after, p c = true) ∧ Bare p w := by
  constructor
  · rintro rfl
    obtain ⟨before, after, hs, hbefore, hafter⟩ := exists_trimWhere p s
    exact ⟨before, after, hs, hbefore, hafter, bare_trimWhere p s⟩
  · rintro ⟨before, after, rfl, hbefore, hafter, hw⟩
    exact trimWhere_append hbefore hafter hw

end Entitlement.Text
