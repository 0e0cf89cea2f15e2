/-!
# `Entitlement.Collection.Keyed` — a finite map that remembers the order of its keys

A `Keyed κ α` is a list of entries no two of which share a key. Writing to a key that is already there
changes the value and keeps the place; writing to a new key appends. Attribute rows, session stores, the
caches of a resolver and the tables of a database are all of this type.

## Contents
- **Reading.** `get?`, `keys`, `values`, and the membership reading `mem_keys_iff`.
- **Writing.** `insert` and `erase`, each with one lemma for the looked-up value and one for the keys.
-/

namespace Entitlement

/-- A finite map, as the list of its entries in the order in which the keys first came. -/
structure Keyed (κ α : Type) where
  entries : List (κ × α)
  nodup_keys : (entries.map Prod.fst).Nodup

namespace Keyed

variable {κ α : Type}

/-- The map without entries. -/
def empty : Keyed κ α := ⟨[], by simp⟩

instance : EmptyCollection (Keyed κ α) := ⟨empty⟩

instance : Inhabited (Keyed κ α) := ⟨empty⟩

instance [DecidableEq κ] [DecidableEq α] : DecidableEq (Keyed κ α) := fun m n =>
  decidable_of_iff (m.entries = n.entries) ⟨fun h => by cases m; cases n; simp_all, fun h => h ▸ rfl⟩

/-- The keys, in the order of their first insertion. -/
def keys (m : Keyed κ α) : List κ := m.entries.map Prod.fst

/-- The values, in the order of their keys. -/
def values (m : Keyed κ α) : List α := m.entries.map Prod.snd

/-- The number of keys. -/
def size (m : Keyed κ α) : Nat := m.entries.length

/-- Whether there is no entry. -/
def isEmpty (m : Keyed κ α) : Bool := m.entries.isEmpty

theorem size_eq_length_keys (m : Keyed κ α) : m.size = m.keys.length := by
  simp [size, keys]

variable [DecidableEq κ]

/-- The first value that a list of entries gives to a key. -/
def find (k : κ) : List (κ × α) → Option α
  | [] => none
  | (k', v) :: rest => if k' = k then some v else find k rest

/-- The value under a key. -/
def get? (m : Keyed κ α) (k : κ) : Option α := find k m.entries

/-- Whether a key has a value. -/
def contains (m : Keyed κ α) (k : κ) : Bool := (m.get? k).isSome

@[simp] theorem get?_empty (k : κ) : (∅ : Keyed κ α).get? k = none := rfl

theorem find_eq_none_iff {k : κ} {es : List (κ × α)} :
    find k es = none ↔ k ∉ es.map Prod.fst := by
  induction es with
  | nil => simp [find]
  | cons e rest ih =>
    obtain ⟨k', v⟩ := e
    by_cases h : k' = k
    · simp [find, h]
    · have h' : ¬ k = k' := fun e => h e.symm
      simp only [find, if_neg h, ih, List.map_cons, List.mem_cons, h', false_or]

theorem mem_keys_iff {m : Keyed κ α} {k : κ} : k ∈ m.keys ↔ (m.get? k).isSome := by
  rw [Option.isSome_iff_ne_none, get?, ne_eq, find_eq_none_iff, keys, Classical.not_not]

/-! ## Writing -/

/-- The entries after a key is given a value: in its old place, or at the end. -/
def put (k : κ) (v : α) : List (κ × α) → List (κ × α)
  | [] => [(k, v)]
  | (k', v') :: rest => if k' = k then (k', v) :: rest else (k', v') :: put k v rest

theorem keys_put (k : κ) (v : α) (es : List (κ × α)) :
    (put k v es).map Prod.fst =
      if k ∈ es.map Prod.fst then es.map Prod.fst else es.map Prod.fst ++ [k] := by
  induction es with
  | nil => simp [put]
  | cons e rest ih =>
    obtain ⟨k', v'⟩ := e
    by_cases h : k' = k
    · simp [put, h]
    · have h' : ¬ k = k' := fun e => h e.symm
      simp only [put, if_neg h, List.map_cons, ih, List.mem_cons, h', false_or]
      split <;> simp

theorem find_put (k k' : κ) (v : α) (es : List (κ × α)) :
    find k' (put k v es) = if k = k' then some v else find k' es := by
  induction es with
  | nil => simp [put, find]
  | cons e rest ih =>
    obtain ⟨k₀, v₀⟩ := e
    by_cases h : k₀ = k
    · subst h
      by_cases h' : k₀ = k' <;> simp [put, find, h']
    · by_cases h' : k₀ = k'
      · subst h'
        have h'' : ¬ k = k₀ := fun e => h e.symm
        simp [put, find, h, h'']
      · simp [put, find, h, h', ih]

/-- Gives a key a value; a key that is already there keeps its place. -/
def insert (m : Keyed κ α) (k : κ) (v : α) : Keyed κ α where
  entries := put k v m.entries
  nodup_keys := by
    rw [keys_put]
    split
    · exact m.nodup_keys
    · rename_i h
      rw [List.nodup_append]
      refine ⟨m.nodup_keys, by simp, ?_⟩
      intro a ha b hb
      simp only [List.mem_singleton] at hb
      subst hb
      exact fun e => h (e ▸ ha)

theorem keys_insert (m : Keyed κ α) (k : κ) (v : α) :
    (m.insert k v).keys = if k ∈ m.keys then m.keys else m.keys ++ [k] :=
  keys_put k v m.entries

@[simp] theorem get?_insert (m : Keyed κ α) (k k' : κ) (v : α) :
    (m.insert k v).get? k' = if k = k' then some v else m.get? k' :=
  find_put k k' v m.entries

/-- Writes a list of entries one after the other. -/
def insertAll (m : Keyed κ α) (es : List (κ × α)) : Keyed κ α :=
  es.foldl (fun acc e => acc.insert e.1 e.2) m

/-- The map that a list of entries leaves behind when it is written from left to right. -/
def ofList (es : List (κ × α)) : Keyed κ α := insertAll ∅ es

/-- Keeps the entries that meet a condition. -/
def filter (m : Keyed κ α) (p : κ × α → Bool) : Keyed κ α where
  entries := m.entries.filter p
  nodup_keys := (List.Sublist.map Prod.fst List.filter_sublist).nodup m.nodup_keys

/-- Removes a key. -/
def erase (m : Keyed κ α) (k : κ) : Keyed κ α where
  entries := m.entries.filter (fun e => e.1 ≠ k)
  nodup_keys := (List.Sublist.map Prod.fst List.filter_sublist).nodup m.nodup_keys

theorem find_filter_ne (k k' : κ) (es : List (κ × α)) :
    find k' (es.filter (fun e => e.1 ≠ k)) = if k = k' then none else find k' es := by
  induction es with
  | nil => simp [find]
  | cons e rest ih =>
    obtain ⟨k₀, v₀⟩ := e
    by_cases h : k₀ = k
    · subst h
      simp only [ne_eq, not_true_eq_false, decide_false, Bool.false_eq_true, not_false_eq_true,
        List.filter_cons_of_neg, ih]
      by_cases h' : k₀ = k' <;> simp [find, h']
    · rw [List.filter_cons_of_pos (by simpa using h)]
      by_cases h' : k₀ = k'
      · subst h'
        have h'' : ¬ k = k₀ := fun e => h e.symm
        simp [find, h'']
      · simpa [find, h'] using ih

@[simp] theorem get?_erase (m : Keyed κ α) (k k' : κ) :
    (m.erase k).get? k' = if k = k' then none else m.get? k' :=
  find_filter_ne k k' m.entries

end Keyed

end Entitlement
