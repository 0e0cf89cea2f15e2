import Entitlement.Collection.Keyed

/-!
# `Entitlement.Proofs.Collection.Keyed` — entries of a map and writes to it

A key that has a value has exactly one entry, so the entries fall into those in front of it and those behind
it, all under other keys (`exists_split`), and maps with the same entries in another order look the same
(`get?_of_perm`). What holds of every entry still does after a write of which it holds
(`forall_insert`), and after a key is removed (`forall_erase`). A write under a new key adds an entry at the end
(`entries_insert_of_absent`).
-/

namespace Entitlement.Keyed

variable {κ α : Type} [DecidableEq κ]

/-- The first entry of a key, in a list in which keys may repeat. -/
theorem exists_split_of_find {k : κ} {v : α} {es : List (κ × α)} (h : find k es = some v) :
    ∃ front back, es = front ++ (k, v) :: back ∧ k ∉ front.map Prod.fst := by
  induction es with
  | nil => cases h
  | cons e rest ih =>
    obtain ⟨k', v'⟩ := e
    rw [find] at h
    by_cases hk : k' = k
    · rw [if_pos hk, Option.some.injEq] at h
      exact ⟨[], rest, by rw [hk, h]; rfl, List.not_mem_nil⟩
    · rw [if_neg hk] at h
      obtain ⟨front, back, rfl, hfront⟩ := ih h
      refine ⟨(k', v') :: front, back, rfl, ?_⟩
      rw [List.map_cons, List.mem_cons, not_or]
      exact ⟨fun e => hk e.symm, hfront⟩

/-- **The entry of a key**, with the entries in front of it and those behind it. -/
theorem exists_split {m : Keyed κ α} {k : κ} {v : α} (h : m.get? k = some v) :
    ∃ front back, m.entries = front ++ (k, v) :: back ∧
      k ∉ front.map Prod.fst ∧ k ∉ back.map Prod.fst := by
  obtain ⟨front, back, hentries, hfront⟩ := exists_split_of_find h
  refine ⟨front, back, hentries, hfront, ?_⟩
  have hnodup := m.nodup_keys
  rw [hentries, List.map_append, List.map_cons] at hnodup
  exact (List.nodup_cons.mp (List.nodup_append.mp hnodup).2.1).1

/-- A key has a value exactly when they are an entry. -/
theorem get?_eq_some_iff {m : Keyed κ α} {k : κ} {v : α} : m.get? k = some v ↔ (k, v) ∈ m.entries := by
  constructor
  · intro h
    obtain ⟨front, back, hentries, -, -⟩ := exists_split h
    rw [hentries]
    exact List.mem_append_right _ List.mem_cons_self
  · intro h
    obtain ⟨v', hv'⟩ := Option.isSome_iff_exists.mp (mem_keys_iff.mp (List.mem_map_of_mem h))
    obtain ⟨front, back, hentries, hfront, hback⟩ := exists_split hv'
    -- an entry in front of the one that is found, or behind it, would be under another key
    rw [hentries, List.mem_append, List.mem_cons] at h
    rcases h with h | h | h
    · exact absurd (List.mem_map_of_mem h) hfront
    · rw [hv', (Prod.mk.inj h).2]
    · exact absurd (List.mem_map_of_mem h) hback

/-- The order of the entries does not matter for what a key has. -/
theorem get?_of_perm {m m' : Keyed κ α} (h : m.entries.Perm m'.entries) (k : κ) : m.get? k = m'.get? k := by
  apply Option.ext
  intro v
  rw [get?_eq_some_iff, get?_eq_some_iff, h.mem_iff]

theorem mem_values_of_get? {m : Keyed κ α} {k : κ} {v : α} (h : m.get? k = some v) : v ∈ m.values := by
  obtain ⟨front, back, hentries, -, -⟩ := exists_split h
  rw [values, hentries, List.map_append, List.map_cons]
  exact List.mem_append_right _ List.mem_cons_self

/-- **A write keeps what it obeys.** -/
theorem forall_insert {m : Keyed κ α} {p : κ → α → Prop} (hm : ∀ k v, m.get? k = some v → p k v)
    {k : κ} {v : α} (h : p k v) : ∀ k' v', (m.insert k v).get? k' = some v' → p k' v' := by
  intro k' v' hv
  rw [get?_insert] at hv
  by_cases hk : k = k'
  · rw [if_pos hk, Option.some.injEq] at hv
    rw [← hk, ← hv]
    exact h
  · rw [if_neg hk] at hv
    exact hm k' v' hv

theorem forall_erase {m : Keyed κ α} {p : κ → α → Prop} (hm : ∀ k v, m.get? k = some v → p k v) (k : κ) :
    ∀ k' v', (m.erase k).get? k' = some v' → p k' v' := by
  intro k' v' hv
  rw [get?_erase] at hv
  by_cases hk : k = k'
  · rw [if_pos hk] at hv
    cases hv
  · rw [if_neg hk] at hv
    exact hm k' v' hv

theorem put_of_not_mem {k : κ} {v : α} {es : List (κ × α)} (h : k ∉ es.map Prod.fst) :
    put k v es = es ++ [(k, v)] := by
  induction es with
  | nil => rfl
  | cons e rest ih =>
    obtain ⟨k', v'⟩ := e
    rw [List.map_cons, List.mem_cons, not_or] at h
    rw [put, if_neg fun hk => h.1 hk.symm, ih h.2]
    rfl

/-- A write under a new key adds an entry at the end. -/
theorem entries_insert_of_absent {m : Keyed κ α} {k : κ} (h : m.get? k = none) (v : α) :
    (m.insert k v).entries = m.entries ++ [(k, v)] := put_of_not_mem (find_eq_none_iff.mp h)

theorem get?_eq_none_iff {m : Keyed κ α} {k : κ} : m.get? k = none ↔ k ∉ m.keys := find_eq_none_iff

theorem contains_eq_false_iff {m : Keyed κ α} {k : κ} : m.contains k = false ↔ m.get? k = none :=
  Option.isSome_eq_false_iff.trans Option.isNone_iff_eq_none

/-- After a write under a new key, what is found is what was found before, and the new value. -/
theorem get?_insert_iff {m : Keyed κ α} {k : κ} (h : m.get? k = none) {v : α} {k' : κ} {v' : α} :
    (m.insert k v).get? k' = some v' ↔ m.get? k' = some v' ∨ (k' = k ∧ v' = v) := by
  rw [get?_insert]
  by_cases hk : k = k'
  · subst hk
    rw [if_pos rfl, h, Option.some.injEq]
    constructor
    · exact fun hv => .inr ⟨rfl, hv.symm⟩
    · rintro (hv | ⟨-, hv⟩)
      · cases hv
      · exact hv.symm
  · rw [if_neg hk]
    exact ⟨.inl, fun hv => hv.resolve_right fun h => hk h.1.symm⟩

end Entitlement.Keyed
