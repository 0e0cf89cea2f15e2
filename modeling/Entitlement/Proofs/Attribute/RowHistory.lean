import Entitlement.Attribute.Row
import Entitlement.Proofs.Collection.Keyed
import Mathlib.Data.Finset.Card

/-!
# `Entitlement.Proofs.Attribute.RowHistory` — the row that a sequence of writes leaves behind

Substitution walks a row from front to back, so it matters in which order the names stand, and that a name that is
written again does not stand there twice. Both are settled by the sequence of writes alone.

* **One write.** `Records` relates a map to the writes behind it: the keys are the written ones, in the order in
  which they first came, and each has the value that was written last. One more write keeps the relation
  (`Records.insert`), and so does a whole list of them (`Records.insertAll`).
* **A history.** A row comes from a list of entries and from single writes to a row, in any order
  (`Row.WrittenBy`). `row_of_writes` reads the row off the writes.
-/

namespace Entitlement

namespace Keyed

variable {κ α : Type} [DecidableEq κ]

/-- Of several writes, the last one to a key gives it the value. -/
def LastWrite (writes : List (κ × α)) (k : κ) (v : α) : Prop :=
  ∃ front back, writes = front ++ (k, v) :: back ∧ k ∉ back.map Prod.fst

/-- What the writes behind a map say about it. -/
structure Records (writes : List (κ × α)) (m : Keyed κ α) : Prop where
  mem_keys : ∀ k, k ∈ m.keys ↔ k ∈ writes.map Prod.fst
  order : m.keys.Pairwise fun k k' => (writes.map Prod.fst).idxOf k < (writes.map Prod.fst).idxOf k'
  value : ∀ k v, m.get? k = some v ↔ LastWrite writes k v

variable {writes : List (κ × α)} {m : Keyed κ α}

/-- One more write is the last one to its own key, and changes nothing for the others. -/
theorem lastWrite_concat {k k' : κ} {v v' : α} :
    LastWrite (writes ++ [(k, v)]) k' v' ↔ if k = k' then v = v' else LastWrite writes k' v' := by
  constructor
  · rintro ⟨front, back, hwrites, hback⟩
    rcases List.eq_nil_or_concat back with rfl | ⟨back, e, rfl⟩
    · obtain ⟨-, he⟩ := List.append_inj' hwrites rfl
      obtain ⟨hk, hv⟩ := Prod.mk.inj (List.singleton_inj.mp he)
      rw [if_pos hk]
      exact hv
    · rw [List.concat_eq_append, ← List.cons_append, ← List.append_assoc] at hwrites
      obtain ⟨rfl, he⟩ := List.append_inj' hwrites rfl
      obtain rfl := List.singleton_inj.mp he
      simp only [List.concat_eq_append, List.map_append, List.mem_append, not_or] at hback
      have hk : ¬ k = k' := fun hk => hback.2 (by simp [hk])
      rw [if_neg hk]
      exact ⟨front, back, rfl, hback.1⟩
  · by_cases hk : k = k'
    · rw [if_pos hk]
      rintro rfl
      exact ⟨writes, [], by rw [hk], List.not_mem_nil⟩
    · rw [if_neg hk]
      rintro ⟨front, back, rfl, hback⟩
      refine ⟨front, back ++ [(k, v)], by simp, ?_⟩
      simp only [List.map_append, List.mem_append, not_or]
      exact ⟨hback, fun hmem => hk (List.mem_singleton.mp hmem).symm⟩

theorem Records.empty : Records [] (∅ : Keyed κ α) where
  mem_keys _ := Iff.rfl
  order := List.Pairwise.nil
  value k v := by
    rw [get?_empty]
    constructor
    · intro h
      cases h
    · rintro ⟨front, back, h, -⟩
      simp at h

/-- One more write leaves the order of the keys that are already there. -/
theorem Records.keeps_order (h : Records writes m) (k : κ) :
    m.keys.Pairwise fun k' k'' =>
      (writes.map Prod.fst ++ [k]).idxOf k' < (writes.map Prod.fst ++ [k]).idxOf k'' := by
  refine h.order.imp_of_mem ?_
  intro k' k'' hk' hk'' hlt
  rw [List.idxOf_append_of_mem ((h.mem_keys k').mp hk'), List.idxOf_append_of_mem ((h.mem_keys k'').mp hk'')]
  exact hlt

/-- The first write to a new key comes behind the first writes to all the others. -/
theorem Records.comes_last (h : Records writes m) {k : κ} (hk : k ∉ m.keys) :
    ∀ k' ∈ m.keys, (writes.map Prod.fst ++ [k]).idxOf k' < (writes.map Prod.fst ++ [k]).idxOf k := by
  intro k' hk'
  have hwritten : k' ∈ writes.map Prod.fst := (h.mem_keys k').mp hk'
  have hnew : k ∉ writes.map Prod.fst := fun hmem => hk ((h.mem_keys k).mpr hmem)
  rw [List.idxOf_append_of_mem hwritten, List.idxOf_append_of_notMem hnew]
  exact Nat.lt_add_right _ (List.idxOf_lt_length_of_mem hwritten)

/-- **One write.** -/
theorem Records.insert (h : Records writes m) (k : κ) (v : α) :
    Records (writes ++ [(k, v)]) (m.insert k v) where
  mem_keys k' := by
    rw [mem_keys_iff, get?_insert, List.map_append, List.mem_append, ← h.mem_keys, mem_keys_iff]
    by_cases hk : k = k'
    · simp [hk]
    · simp [hk, Ne.symm hk]
  order := by
    rw [List.map_append, keys_insert]
    by_cases hk : k ∈ m.keys
    · rw [if_pos hk]
      exact h.keeps_order k
    · rw [if_neg hk, List.pairwise_append]
      refine ⟨h.keeps_order k, List.pairwise_singleton _ k, ?_⟩
      intro k' hk' k'' hk''
      rw [List.mem_singleton.mp hk'']
      exact h.comes_last hk k' hk'
  value k' v' := by
    rw [get?_insert, lastWrite_concat]
    by_cases hk : k = k'
    · rw [if_pos hk, if_pos hk, Option.some.injEq]
    · rw [if_neg hk, if_neg hk]
      exact h.value k' v'

/-- **A list of writes.** -/
theorem Records.insertAll (h : Records writes m) (es : List (κ × α)) : Records (writes ++ es) (m.insertAll es) := by
  induction es generalizing writes m with
  | nil =>
    rw [List.append_nil]
    exact h
  | cons e es ih =>
    rw [List.append_cons]
    exact ih (h.insert e.1 e.2)

/-- Each key counts once. -/
theorem Records.size_eq (h : Records writes m) : m.size = (writes.map Prod.fst).toFinset.card := by
  have hkeys : m.keys.toFinset = (writes.map Prod.fst).toFinset := by
    ext k
    rw [List.mem_toFinset, List.mem_toFinset, h.mem_keys]
  calc
    m.size = m.keys.length := m.size_eq_length_keys
    _ = m.keys.toFinset.card := (List.toFinset_card_of_nodup m.nodup_keys).symm
    _ = (writes.map Prod.fst).toFinset.card := by rw [hkeys]

end Keyed

namespace Attribute

open Keyed (LastWrite Records)

/-- How a row comes about: it is made from a list of entries, or one more value is written to a row. -/
inductive Row.WrittenBy : List (String × Value) → Row → Prop where
  | ofList (es : List (String × Value)) : WrittenBy es (Keyed.ofList es)
  | insert {writes : List (String × Value)} {row : Row} (h : WrittenBy writes row) (name : String) (value : Value) :
      WrittenBy (writes ++ [(name, value)]) (row.insert name value)

variable {writes : List (String × Value)} {row : Row}

theorem Row.WrittenBy.records (h : Row.WrittenBy writes row) : Records writes row := by
  induction h with
  | ofList es => exact Records.empty.insertAll es
  | insert _ name value ih => exact ih.insert name value

/-- **First position, last value.** The names of a row are distinct and stand in the order in which they were first
    written, each with the value that was written last; a look-up finds that value exactly for the names that were
    ever written, and the row has as many entries as there are such names. -/
theorem row_of_writes (h : Row.WrittenBy writes row) :
    row.keys.Nodup ∧
      row.keys.Pairwise
        (fun name name' => (writes.map Prod.fst).idxOf name < (writes.map Prod.fst).idxOf name') ∧
      (∀ name value, (name, value) ∈ row.entries ↔ LastWrite writes name value) ∧
      (∀ name value, row.get? name = some value ↔ LastWrite writes name value) ∧
      (∀ name, (row.get? name).isSome ↔ name ∈ writes.map Prod.fst) ∧
      row.size = (writes.map Prod.fst).toFinset.card := by
  have hrecords := h.records
  refine ⟨row.nodup_keys, hrecords.order, ?_, hrecords.value, ?_, hrecords.size_eq⟩
  · intro name value
    rw [← Keyed.get?_eq_some_iff, hrecords.value]
  · intro name
    rw [← Keyed.mem_keys_iff, hrecords.mem_keys]

/-- Names are written again in the list and behind it, and the empty name is a name like any other. -/
theorem row_of_writes_again :
    let row : Row := ((Keyed.ofList [("uid", .integer 1), ("score", .null), ("uid", .integer 7)]).insert ""
      (.boolean true)).insert "score" (.integer 10)
    row.keys = ["uid", "score", ""] ∧ row.get? "uid" = some (.integer 7) ∧ (row.get? "score").isSome ∧
      row.get? "name" = none ∧ row.size = 3 := by
  intro row
  have hrow : Row.WrittenBy [("uid", .integer 1), ("score", .null), ("uid", .integer 7), ("", .boolean true),
      ("score", .integer 10)] row :=
    .insert (.insert (.ofList [("uid", .integer 1), ("score", .null), ("uid", .integer 7)]) _ _) _ _
  obtain ⟨-, -, -, hvalue, hname, hsize⟩ := row_of_writes hrow
  refine ⟨by decide, ?_, (hname "score").mpr (by decide), ?_, hsize.trans (by decide)⟩
  · exact (hvalue "uid" (.integer 7)).mpr
      ⟨[("uid", .integer 1), ("score", .null)], [("", .boolean true), ("score", .integer 10)], rfl, by decide⟩
  · rw [← Option.not_isSome_iff_eq_none, hname]
    decide

end Attribute

end Entitlement
