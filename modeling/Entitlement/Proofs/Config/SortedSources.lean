import Entitlement.Config.Layer
import Mathlib.Data.List.Perm.Basic

/-!
# `Entitlement.Proofs.Config.SortedSources` — sources in the order of their precedence

The sort is stable, so the sources of one precedence are found in it as they are given (`filter_inPrecedence`).
Two things follow. Nothing but the order among equals matters for the sort (`inPrecedence_congr`). And a place in
the sorted list can be carried back to a place in the given one: what stands on one side of a source there, and
has its precedence, stands on the same side in the sort (`exists_split_of_inPrecedence`), and what has another
one is told by the order (`sides_of_inPrecedence`).
-/

namespace Entitlement.Config

theorem inPrecedence_perm (cs : List Contribution) : (inPrecedence cs).Perm cs := List.mergeSort_perm _ _

theorem mem_inPrecedence {cs : List Contribution} {c : Contribution} : c ∈ inPrecedence cs ↔ c ∈ cs :=
  (inPrecedence_perm cs).mem_iff

theorem pairwise_inPrecedence (cs : List Contribution) :
    (inPrecedence cs).Pairwise fun a b => a.precedence ≤ b.precedence := by
  have h : (inPrecedence cs).Pairwise fun a b => decide (a.precedence ≤ b.precedence) :=
    List.pairwise_mergeSort (fun a b c => by simpa using Nat.le_trans)
      (fun a b => by simpa using Nat.le_total _ _) cs
  exact h.imp fun hab => by simpa using hab

/-- **The sort is stable**: the sources of one precedence come out in the order in which they are given. -/
theorem filter_inPrecedence (cs : List Contribution) (p : Nat) :
    (inPrecedence cs).filter (·.precedence = p) = cs.filter (·.precedence = p) := by
  have hperm := (inPrecedence_perm cs).filter (·.precedence = p)
  -- sources of one precedence are in order, and an ordered part of the list is an ordered part of the sort
  have hordered : (cs.filter (·.precedence = p)).Pairwise fun a b => decide (a.precedence ≤ b.precedence) := by
    apply List.pairwise_of_forall_mem_list
    intro a ha b hb
    have ha : a.precedence = p := by simpa using List.of_mem_filter ha
    have hb : b.precedence = p := by simpa using List.of_mem_filter hb
    simp [ha, hb]
  have hsub : (cs.filter (·.precedence = p)).Sublist (inPrecedence cs) :=
    List.sublist_mergeSort (fun a b c => by simpa using Nat.le_trans) (fun a b => by simpa using Nat.le_total _ _)
      hordered List.filter_sublist
  have hfilter := hsub.filter (·.precedence = p)
  rw [List.filter_filter] at hfilter
  simp only [Bool.and_self] at hfilter
  exact (hfilter.eq_of_length hperm.length_eq.symm).symm

/-- Lists with the same sources of each precedence have the same sources. -/
theorem mem_iff_of_filter {cs cs' : List Contribution}
    (heq : ∀ p, cs.filter (·.precedence = p) = cs'.filter (·.precedence = p)) (c : Contribution) :
    c ∈ cs ↔ c ∈ cs' := by
  have hc : c ∈ cs.filter (·.precedence = c.precedence) ↔ c ∈ cs'.filter (·.precedence = c.precedence) := by
    rw [heq]
  simpa using hc

/-- In an ordered list the first source has the lowest precedence. -/
theorem precedence_le_of_mem {c d : Contribution} {rest : List Contribution}
    (h : (c :: rest).Pairwise fun a b => a.precedence ≤ b.precedence) (hd : d ∈ c :: rest) :
    c.precedence ≤ d.precedence := by
  rcases List.mem_cons.mp hd with rfl | hd
  · exact Nat.le_refl _
  · exact (List.pairwise_cons.mp h).1 d hd

/-- Ordered lists with the same sources of each precedence, in the same order, are the same. -/
theorem eq_of_filter_precedence {cs cs' : List Contribution}
    (h : cs.Pairwise fun a b => a.precedence ≤ b.precedence)
    (h' : cs'.Pairwise fun a b => a.precedence ≤ b.precedence)
    (heq : ∀ p, cs.filter (·.precedence = p) = cs'.filter (·.precedence = p)) : cs = cs' := by
  induction cs generalizing cs' with
  | nil =>
    symm
    apply List.eq_nil_iff_forall_not_mem.mpr
    intro c hc
    exact List.not_mem_nil ((mem_iff_of_filter heq c).mpr hc)
  | cons c rest ih =>
    have hc : c ∈ cs' := (mem_iff_of_filter heq c).mp List.mem_cons_self
    cases cs' with
    | nil => exact absurd hc List.not_mem_nil
    | cons c' rest' =>
      have hc' : c' ∈ c :: rest := (mem_iff_of_filter heq c').mpr List.mem_cons_self
      have hp : c'.precedence = c.precedence :=
        Nat.le_antisymm (precedence_le_of_mem h' hc) (precedence_le_of_mem h hc')
      -- the lists start with the first source of that lowest precedence
      have hhead := heq c.precedence
      rw [List.filter_cons_of_pos (by simp), List.filter_cons_of_pos (by simp [hp])] at hhead
      obtain rfl : c = c' := (List.cons.inj hhead).1
      rw [ih (List.pairwise_cons.mp h).2 (List.pairwise_cons.mp h').2]
      intro p
      have hcons := heq p
      simp only [List.filter_cons] at hcons
      split at hcons
      · exact (List.cons.inj hcons).2
      · exact hcons

/-- A reordering that keeps the order among equals is sorted into the same list. -/
theorem inPrecedence_congr {cs cs' : List Contribution}
    (h : ∀ p, cs.filter (·.precedence = p) = cs'.filter (·.precedence = p)) :
    inPrecedence cs = inPrecedence cs' := by
  apply eq_of_filter_precedence (pairwise_inPrecedence cs) (pairwise_inPrecedence cs')
  intro p
  rw [filter_inPrecedence, filter_inPrecedence, h]

/-- **A place in the sort is a place in the list.** What stands on one side of it in the list, with the same
    precedence, stands on the same side in the sort. -/
theorem exists_split_of_inPrecedence {cs front back : List Contribution} {c : Contribution}
    (h : inPrecedence cs = front ++ c :: back) :
    ∃ front' back', cs = front' ++ c :: back' ∧
      (∀ d ∈ front', d.precedence = c.precedence → d ∈ front) ∧
      ∀ d ∈ back', d.precedence = c.precedence → d ∈ back := by
  have hfilter := filter_inPrecedence cs c.precedence
  rw [h, List.filter_append, List.filter_cons_of_pos (by simp)] at hfilter
  obtain ⟨before, after, rfl, hbefore, hafter⟩ := List.filter_eq_append_iff.mp hfilter.symm
  obtain ⟨skipped, back', rfl, hskipped, -, hback'⟩ := List.filter_eq_cons_iff.mp hafter
  refine ⟨before ++ skipped, back', by simp, ?_, ?_⟩
  · intro d hd hp
    rcases List.mem_append.mp hd with hd | hd
    · have hmem : d ∈ front.filter (·.precedence = c.precedence) := by
        rw [← hbefore]
        exact List.mem_filter.mpr ⟨hd, by simpa using hp⟩
      exact List.mem_of_mem_filter hmem
    · exact absurd (by simpa using hp) (hskipped d hd)
  · intro d hd hp
    have hmem : d ∈ back.filter (·.precedence = c.precedence) := by
      rw [← hback']
      exact List.mem_filter.mpr ⟨hd, by simpa using hp⟩
    exact List.mem_of_mem_filter hmem

/-- Where a source stands in the sort: in front of the one that is looked at, at its place, or behind it. -/
theorem sides_of_inPrecedence {cs front back : List Contribution} {c d : Contribution}
    (h : inPrecedence cs = front ++ c :: back) (hd : d ∈ cs) :
    d ∈ front ∧ d.precedence ≤ c.precedence ∨ d = c ∨ d ∈ back ∧ c.precedence ≤ d.precedence := by
  have hpairwise := pairwise_inPrecedence cs
  rw [h, List.pairwise_append, List.pairwise_cons] at hpairwise
  obtain ⟨-, ⟨hback, -⟩, hfront⟩ := hpairwise
  have hmem := mem_inPrecedence.mpr hd
  rw [h, List.mem_append, List.mem_cons] at hmem
  rcases hmem with hmem | hmem | hmem
  · exact .inl ⟨hmem, hfront d hmem c List.mem_cons_self⟩
  · exact .inr (.inl hmem)
  · exact .inr (.inr ⟨hmem, hback d hmem⟩)

end Entitlement.Config
