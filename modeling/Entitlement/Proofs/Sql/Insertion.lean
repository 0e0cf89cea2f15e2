import Entitlement.Proofs.Collection.Keyed
import Entitlement.Sql.Database
import Mathlib.Data.List.Nodup
import Mathlib.Data.List.Perm.Subperm

/-!
# `Entitlement.Proofs.Sql.Insertion` — rows that are added, and what stays

A row that breaks no constraint is added behind the others (`Table.insert_ok`), under a number that no row has
(`Table.nextNumber_absent`). Adding it changes the table, and among the other tables at most the one of the numbers
that were given (`Database.insertNamed_ok`, `Database.KeepsNumbers.recordNumber`).
-/

namespace Entitlement.Sql

namespace Table

variable {t : Table}

/-! ## Row numbers -/

/-- Among one more candidates than there are rows, one is free. -/
theorem freeNumber_absent (t : Table) : t.rows.get? t.freeNumber = none := by
  let candidate (n : Nat) : Int := 0x4000000000000000 - n
  show t.rows.get? (candidate
    (((List.range (t.rows.size + 1)).find? fun n => !t.rows.contains (candidate n)).getD 0)) = none
  cases h : (List.range (t.rows.size + 1)).find? fun n => !t.rows.contains (candidate n) with
  | some n =>
    have hfree := List.find?_some h
    rw [Bool.not_eq_true'] at hfree
    exact Keyed.contains_eq_false_iff.mp hfree
  | none =>
    -- otherwise there are more keys than rows
    have htaken : ((List.range (t.rows.size + 1)).map candidate) ⊆ t.rows.keys := by
      intro i hi
      obtain ⟨n, hn, rfl⟩ := List.mem_map.mp hi
      have hn' := List.find?_eq_none.mp h n hn
      rw [Bool.not_eq_true', Bool.not_eq_false] at hn'
      exact Keyed.mem_keys_iff.mpr hn'
    have hnodup : ((List.range (t.rows.size + 1)).map candidate).Nodup :=
      List.nodup_range.map fun m n (hmn : (0x4000000000000000 : Int) - m = 0x4000000000000000 - n) => by omega
    have hlength := (List.subperm_of_subset hnodup htaken).length_le
    rw [List.length_map, List.length_range, ← Keyed.size_eq_length_keys] at hlength
    omega

theorem le_max?_getD {is : List Int} {i : Int} (h : i ∈ is) : i ≤ is.max?.getD 0 := by
  cases hm : is.max? with
  | none => exact absurd (List.max?_eq_none_iff.mp hm ▸ h) List.not_mem_nil
  | some m => exact (List.max?_eq_some_iff.mp hm).2 i h

/-- The number behind the last row, or a free one, is no row's. -/
theorem nextNumber_absent (t : Table) : ∃ n, t.nextNumber none = .ok n ∧ t.rows.get? n = none := by
  refine ⟨_, rfl, ?_⟩
  by_cases hlast : t.rows.keys.max?.getD 0 = Numeral.int64.greatest
  · rw [if_pos hlast]
    exact freeNumber_absent t
  · rw [if_neg hlast, Keyed.get?_eq_none_iff]
    intro hmem
    by_cases hempty : t.rows.isEmpty = true
    · have hentries : t.rows.entries = [] := List.isEmpty_iff.mp hempty
      rw [Keyed.keys, hentries] at hmem
      exact List.not_mem_nil hmem
    · rw [if_neg hempty] at hmem
      have := le_max?_getD hmem
      omega

/-! ## Adding a row -/

/-- A row that breaks no constraint is added under a number that no row has. -/
theorem insert_ok {given : Option Int} {values stored cells : Cells} {number : Int}
    (hstored : t.columns.zipWith (fun c d => c.type.store d) values = stored)
    (hnumber : t.number given stored = .ok number) (hcells : t.numbered number stored = cells)
    (hrequired : t.checkRequired cells = .ok ()) (hnew : t.rows.get? number = none)
    (hapart : ∀ c ∈ t.constraints, t.agrees c.positions cells = false) :
    t.insert given values = .ok ({ t with rows := t.rows.insert number cells }, number) := by
  have hconstraints : t.checkConstraints cells = .ok () := by
    have hfind : (t.constraints.find? fun c => t.agrees c.positions cells) = none :=
      List.find?_eq_none.mpr fun c hc => by rw [hapart c hc]; decide
    rw [checkConstraints, hfind]
  have hfree : (t.rows.get? number).isSome = false := by rw [hnew]; rfl
  subst hstored
  subst hcells
  show (t.number given _ >>= fun number => _) = _
  rw [hnumber]
  show (t.checkRequired _ >>= fun _ => _) = _
  rw [hrequired]
  show (if (t.rows.get? number).isSome = true then _ else _) = _
  rw [hfree, if_neg Bool.false_ne_true]
  show (t.checkConstraints _ >>= fun _ => _) = _
  rw [hconstraints]
  rfl

end Table

namespace Database

variable {db : Database} {t t' : Table} {name : String}

theorem writable_ok (hown : db.ownTable? name = none) (ht : db.tables.get? (fold name) = some t) :
    db.writable name = .ok t := by
  have htable : db.table? name = some t := by rw [table?, hown, Option.none_or, ht]
  rw [writable, hown, table, htable]

theorem insertNamed_ok {given : List (String × Datum)} {number : Int} (ht : db.writable name = .ok t)
    (hgiven : (given.find? fun (column, _) => (t.position? column).isNone) = none)
    (hinsert : t.insert (db.lastNumber? t) (t.arrange given) = .ok (t', number)) :
    db.insertNamed name given = .ok ((db.recordNumber t' number).put t') := by
  rw [insertNamed, ht]
  dsimp only [bind, Except.bind]
  rw [hgiven]
  show (t.insert (db.lastNumber? t) (t.arrange given) >>= fun _ => _) = _
  rw [hinsert]
  rfl

/-- The table of the numbers that tables have given is there, under its own name. -/
def KeepsNumbers (db : Database) : Prop :=
  ∃ s, db.tables.get? (fold sequenceName) = some s ∧ s.name = sequenceName

theorem tables_put (db : Database) (t : Table) (key : List Char) :
    (db.put t).tables.get? key = if fold t.name = key then some t else db.tables.get? key :=
  Keyed.get?_insert _ _ _ _

theorem KeepsNumbers.put (h : db.KeepsNumbers) (hname : fold t.name ≠ fold sequenceName) :
    (db.put t).KeepsNumbers := by
  obtain ⟨s, hs, hsname⟩ := h
  exact ⟨s, by rw [tables_put, if_neg hname, hs], hsname⟩

/-- Recording a number only changes the table of the numbers. -/
theorem KeepsNumbers.recordNumber (h : db.KeepsNumbers) (t : Table) (number : Int) :
    (db.recordNumber t number).KeepsNumbers ∧
      ∀ key, key ≠ fold sequenceName → (db.recordNumber t number).tables.get? key = db.tables.get? key := by
  obtain ⟨s, hs, hname⟩ := h
  have hsame : db.KeepsNumbers ∧ ∀ key, key ≠ fold sequenceName → db.tables.get? key = db.tables.get? key :=
    ⟨⟨s, hs, hname⟩, fun _ _ => rfl⟩
  have hwrite (n : Int) (cells : Cells) : (db.put (s.write n cells)).KeepsNumbers ∧
      ∀ key, key ≠ fold sequenceName → (db.put (s.write n cells)).tables.get? key = db.tables.get? key := by
    have hkey : fold (s.write n cells).name = fold sequenceName := congrArg fold hname
    refine ⟨⟨s.write n cells, by rw [tables_put, if_pos hkey], hname⟩, fun key hne => ?_⟩
    rw [tables_put, hkey, if_neg hne.symm]
  unfold Database.recordNumber
  rw [hs]
  cases db.lastNumber? t with
  | none => exact hsame
  | some last =>
    cases db.numberEntry? t with
    | none => exact hwrite _ _
    | some r =>
      show (if last < number then _ else db : Database).KeepsNumbers ∧
        ∀ key, key ≠ _ → (if last < number then _ else db : Database).tables.get? key = _
      by_cases hlt : last < number
      · rw [if_pos hlt]
        exact hwrite _ _
      · rw [if_neg hlt]
        exact hsame

end Database

end Entitlement.Sql
