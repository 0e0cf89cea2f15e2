import Mathlib.Data.List.Forall2

/-!
# `Entitlement.Proofs.Text.AsciiCase` — letter case within ASCII

Some words are read in any ASCII letter case: the text is put in lower case and compared. What that accepts is said
without a mapping: the text is the word, except that letters of it may be capitals (`map_toLower_eq_iff`).
-/

namespace Entitlement.Text

theorem toNat_toLower (c : Char) :
    c.toLower.toNat = if 65 ≤ c.toNat ∧ c.toNat ≤ 90 then c.toNat + 32 else c.toNat := by
  unfold Char.toLower
  split
  · rename_i h
    have hlow : 65 ≤ c.val.toNat := h.1
    have hhigh : c.val.toNat ≤ 90 := h.2
    show (c.val + 32).toNat = if 65 ≤ c.toNat ∧ c.toNat ≤ 90 then c.val.toNat + 32 else c.toNat
    rw [UInt32.toNat_add, if_pos ⟨hlow, hhigh⟩]
    show (c.val.toNat + 32) % 2 ^ 32 = _
    omega
  · rename_i h
    exact (if_neg h).symm

theorem toNat_toUpper (c : Char) :
    c.toUpper.toNat = if 97 ≤ c.toNat ∧ c.toNat ≤ 122 then c.toNat - 32 else c.toNat := by
  unfold Char.toUpper
  split
  · rename_i h
    have hlow : 97 ≤ c.val.toNat := h.1
    have hhigh : c.val.toNat ≤ 122 := h.2
    -- capitals come first, so the distance to them is negative, that is, modulo `2 ^ 32`
    show (c.val + 4294967264).toNat = if 97 ≤ c.toNat ∧ c.toNat ≤ 122 then c.val.toNat - 32 else c.toNat
    rw [UInt32.toNat_add, if_pos ⟨hlow, hhigh⟩]
    show (c.val.toNat + 4294967264) % 2 ^ 32 = _
    omega
  · rename_i h
    exact (if_neg h).symm

/-- A character that is no capital is the lower-case form of itself and of its capital. -/
theorem toLower_eq_iff {c x : Char} (hx : x.isUpper = false) : c.toLower = x ↔ c = x ∨ c = x.toUpper := by
  have hcapital : ¬ (65 ≤ x.toNat ∧ x.toNat ≤ 90) := of_decide_eq_false hx
  rw [← Char.toNat_inj, ← Char.toNat_inj, ← Char.toNat_inj, toNat_toLower, toNat_toUpper]
  split <;> split <;> omega

theorem toLower_of_not_isUpper {c : Char} (hc : c.isUpper = false) : c.toLower = c :=
  (toLower_eq_iff hc).mpr (.inl rfl)

/-- The text is a word, with any of its letters as capitals. -/
def WrittenAs (s w : List Char) : Prop := List.Forall₂ (fun c x => c = x ∨ c = x.toUpper) s w

/-- The texts that are a word in lower case are those that differ from it in capitals only. -/
theorem map_toLower_eq_iff {s w : List Char} (hw : ∀ x ∈ w, x.isUpper = false) :
    s.map Char.toLower = w ↔ WrittenAs s w := by
  unfold WrittenAs
  induction s generalizing w with
  | nil =>
    rw [List.map_nil, List.forall₂_nil_left_iff]
    exact eq_comm
  | cons c rest ih =>
    cases w with
    | nil =>
      rw [List.forall₂_nil_right_iff]
      exact iff_of_false (List.cons_ne_nil _ _) (List.cons_ne_nil _ _)
    | cons x w =>
      obtain ⟨hx, hw⟩ := List.forall_mem_cons.mp hw
      rw [List.map_cons, List.cons.injEq, List.forall₂_cons, toLower_eq_iff hx, ih hw]

end Entitlement.Text
