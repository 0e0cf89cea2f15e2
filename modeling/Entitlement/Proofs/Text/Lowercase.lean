import Entitlement.Text.Lowercase

/-!
# `Entitlement.Proofs.Text.Lowercase` — lower-casing part by part

What a capital sigma becomes depends on the characters around it, and so lower-casing is not done character by
character. But there are characters across which it does not look, which no other character turns into, and which it
leaves alone (`IsBreak`). At such a character a text can be taken apart before it is lower-cased as well as after it
(`lowercase_intercalate`). The comma is one of them (`isBreak_comma`).

Lower-casing twice is lower-casing once (`lower_lower`). What a character becomes is not a capital: the table says so
range by range, since the forms of a range come after the capitals of another range, before them, or between them
(`CaseRange.apart`).
-/

namespace Entitlement.Text

/-! ## The table -/

/-- A range of capitals with one stride and one offset, as the table has it. -/
abbrev CaseRange := Nat × Nat × Nat × Int

namespace CaseRange

def first (r : CaseRange) : Nat := r.1

def last (r : CaseRange) : Nat := r.2.1

def stride (r : CaseRange) : Nat := r.2.2.1

def offset (r : CaseRange) : Int := r.2.2.2

end CaseRange

/-- A code point is one of a range of capitals. -/
def IsCapital (r : CaseRange) (n : Nat) : Prop := r.first ≤ n ∧ n ≤ r.last ∧ (n - r.first) % r.stride = 0

/-- The lower-case form of a capital of a range, as a code point. -/
def CaseRange.form (r : CaseRange) (n : Nat) : Nat := (n + r.offset).toNat

/-- A character is a capital of a range that the table has, or it is `İ`, or it is its own lower-case form. -/
theorem lowerChar_cases (c : Char) :
    c = 'İ' ∨
      (∃ r : CaseRange, r ∈ lowerRanges ∧ IsCapital r c.toNat ∧ lowerChar c = [Char.ofNat (r.form c.toNat)]) ∨
      lowerChar c = [c] := by
  by_cases hc : c = 'İ'
  · exact .inl hc
  · right
    rw [lowerChar, if_neg hc]
    split
    · rename_i h
      have hcapital := List.find?_some h
      simp only [Bool.and_eq_true, decide_eq_true_eq, beq_iff_eq] at hcapital
      exact .inl ⟨_, List.mem_of_find?_eq_some h, ⟨hcapital.1.1, hcapital.1.2, hcapital.2⟩, rfl⟩
    · exact .inr rfl

/-- The lower-case forms of a range come after the capitals of another, or before them, or between them. -/
def CaseRange.apart (r r' : CaseRange) : Bool :=
  Nat.blt (r.form r.last) r'.first || Nat.blt r'.last (r.form r.first) ||
    (Nat.beq r'.stride 2 && (Nat.beq (r.form r.first) (r.form r.last) || Nat.beq r.stride 2) &&
      Nat.beq ((r.form r.first + r'.first) % 2) 1)

/-- The capital `İ`, which the table does not have. -/
def dottedI : CaseRange := (0x130, 0x130, 1, 0)

theorem apart_lowerRanges : (lowerRanges.all fun r => (dottedI :: lowerRanges).all (CaseRange.apart r)) = true := by
  decide +kernel

/-- No lower-case form comes before `a`. -/
theorem le_form_first : (lowerRanges.all fun r : CaseRange => Nat.ble 0x61 (r.form r.first)) = true := by
  decide +kernel

section Forms

variable {r : CaseRange} {n : Nat}

theorem le_form (hr : r ∈ lowerRanges) (hn : IsCapital r n) : 0x61 ≤ r.form n := by
  have hfirst := Nat.le_of_ble_eq_true (List.all_eq_true.mp le_form_first r hr)
  have hle := hn.1
  unfold CaseRange.form at hfirst ⊢
  omega

/-- A lower-case form is not a capital. -/
theorem not_isCapital_form (hr : r ∈ lowerRanges) (hn : IsCapital r n) {r' : CaseRange}
    (hr' : r' ∈ dottedI :: lowerRanges) : ¬ IsCapital r' (r.form n) := by
  have hfirst := Nat.le_of_ble_eq_true (List.all_eq_true.mp le_form_first r hr)
  have hapart := List.all_eq_true.mp (List.all_eq_true.mp apart_lowerRanges r hr) r' hr'
  obtain ⟨hle, hle', hmod⟩ := hn
  rintro ⟨hform, hform', hgap⟩
  simp only [CaseRange.apart, Bool.or_eq_true, Bool.and_eq_true, Nat.blt_eq, Nat.beq_eq] at hapart
  unfold CaseRange.form at *
  rcases hapart with (hafter | hbefore) | ⟨⟨hstride', hstride⟩, hodd⟩
  · omega
  · omega
  · -- the capitals of the other range all have one parity, and the forms the other one
    rw [hstride'] at hgap
    rcases hstride with hsingle | hstride
    · omega
    · rw [hstride] at hmod
      omega

end Forms

/-- A number is the code point of its character, or it has no character. -/
theorem toNat_ofNat_or (n : Nat) : (Char.ofNat n).toNat = n ∨ Char.ofNat n = '\x00' := by
  by_cases h : n.isValidChar
  · left
    rw [Char.ofNat, dif_pos h]
    rfl
  · right
    rw [Char.ofNat, dif_neg h]
    rfl

/-- What a character becomes is its own lower-case form. -/
theorem lowerChar_of_mem {c d : Char} (h : d ∈ lowerChar c) : lowerChar d = [d] := by
  rcases lowerChar_cases c with rfl | ⟨r, hr, hcapital, hc⟩ | hc
  · have hforms : lowerChar 'İ' = ['i', '\u0307'] := by rw [lowerChar, if_pos rfl]
    rw [hforms, List.mem_cons, List.mem_singleton] at h
    rcases h with rfl | rfl <;> decide +kernel
  · rw [hc, List.mem_singleton] at h
    subst h
    rcases toNat_ofNat_or (r.form c.toNat) with htoNat | hnull
    · rcases lowerChar_cases (Char.ofNat (r.form c.toNat)) with hform | ⟨r', hr', hform, -⟩ | hform
      · have hdotted : IsCapital dottedI (r.form c.toNat) := by
          rw [← htoNat, hform]
          exact ⟨by decide, by decide, by decide⟩
        exact absurd hdotted (not_isCapital_form hr hcapital List.mem_cons_self)
      · rw [htoNat] at hform
        exact absurd hform (not_isCapital_form hr hcapital (List.mem_cons_of_mem _ hr'))
      · exact hform
    · rw [hnull]
      decide +kernel
  · rw [hc, List.mem_singleton] at h
    rw [h, hc]

/-! ## Lower-casing twice -/

theorem ne_sigma_of_lowerChar {c : Char} (h : lowerChar c = [c]) : c ≠ 'Σ' := by
  rintro rfl
  exact absurd h (by decide +kernel)

theorem lowerChar_of_mem_lowercaseFrom {after : Bool} {s : List Char} {d : Char} (h : d ∈ lowercaseFrom after s) :
    lowerChar d = [d] := by
  induction s generalizing after with
  | nil => exact absurd h List.not_mem_nil
  | cons c rest ih =>
    rw [lowercaseFrom, List.mem_append] at h
    rcases h with h | h
    · split at h
      · rw [List.mem_singleton] at h
        rw [h]
        split <;> decide +kernel
      · exact lowerChar_of_mem h
    · exact ih h

theorem lowercaseFrom_of_fixed {after : Bool} {s : List Char} (h : ∀ c ∈ s, lowerChar c = [c]) :
    lowercaseFrom after s = s := by
  induction s generalizing after with
  | nil => rfl
  | cons c rest ih =>
    obtain ⟨hc, hrest⟩ := List.forall_mem_cons.mp h
    rw [lowercaseFrom, if_neg (ne_sigma_of_lowerChar hc), hc, ih hrest]
    rfl

theorem lowercase_lowercase (s : List Char) : lowercase (lowercase s) = lowercase s :=
  lowercaseFrom_of_fixed fun _ => lowerChar_of_mem_lowercaseFrom

/-- **Lower-casing is idempotent.** -/
@[simp] theorem lower_lower (s : String) : lower (lower s) = lower s := by
  rw [lower, toList_lower, lowercase_lowercase, lower]

/-! ## Breaks -/

/-- A character across which lower-casing does not look, which it leaves alone and which nothing else turns into. -/
structure IsBreak (c : Char) : Prop where
  not_ignorable : isCaseIgnorable c = false
  not_cased : isCased c = false
  lower : lowerChar c = [c]
  unproduced : ∀ d, c ∈ lowerChar d → d = c

theorem isBreak_comma : IsBreak ',' where
  not_ignorable := by decide +kernel
  not_cased := by decide +kernel
  lower := by decide +kernel
  unproduced := by
    intro d h
    rcases lowerChar_cases d with rfl | ⟨r, hr, hcapital, hd⟩ | hd
    · exact absurd h (by decide +kernel)
    · rw [hd, List.mem_singleton] at h
      have hform := le_form hr hcapital
      rcases toNat_ofNat_or (r.form d.toNat) with htoNat | hnull
      · rw [← h] at htoNat
        rw [← htoNat] at hform
        exact absurd hform (by decide)
      · rw [hnull] at h
        exact absurd h (by decide)
    · rw [hd, List.mem_singleton] at h
      exact h.symm

namespace IsBreak

variable {c : Char} (hc : IsBreak c)

include hc

theorem startsCased_append (s rest : List Char) : startsCased (s ++ c :: rest) = startsCased s := by
  induction s with
  | nil =>
    show startsCased (c :: rest) = false
    rw [startsCased, hc.not_ignorable, hc.not_cased]
    rfl
  | cons d s ih => rw [List.cons_append, startsCased, startsCased, ih]

/-- What comes behind the break is lower-cased by itself, and so is what comes in front of it. -/
theorem lowercaseFrom_append (after : Bool) (s rest : List Char) :
    lowercaseFrom after (s ++ c :: rest) = lowercaseFrom after s ++ c :: lowercase rest := by
  induction s generalizing after with
  | nil =>
    rw [List.nil_append, lowercaseFrom_break hc.not_ignorable hc.not_cased (ne_sigma_of_lowerChar hc.lower), hc.lower]
    rfl
  | cons d s ih =>
    rw [List.cons_append, lowercaseFrom, lowercaseFrom, ih, hc.startsCased_append, List.append_assoc]

theorem mem_of_mem_lowercaseFrom {after : Bool} {s : List Char} (h : c ∈ lowercaseFrom after s) : c ∈ s := by
  induction s generalizing after with
  | nil => exact absurd h List.not_mem_nil
  | cons d s ih =>
    rw [lowercaseFrom, List.mem_append] at h
    rcases h with h | h
    · split at h
      · -- neither form of sigma is a break
        have hcased := hc.not_cased
        rw [List.mem_singleton.mp h] at hcased
        split at hcased <;> exact absurd hcased (by decide +kernel)
      · exact List.mem_cons.mpr (.inl (hc.unproduced d h).symm)
    · exact List.mem_cons_of_mem _ (ih h)

/-- **Part by part.** Texts that a break joins are lower-cased as each of them is by itself. -/
theorem lowercase_intercalate (ss : List (List Char)) :
    lowercase ([c].intercalate ss) = [c].intercalate (ss.map lowercase) := by
  induction ss with
  | nil => rfl
  | cons s ss ih =>
    cases ss with
    | nil => rw [List.map_singleton, List.intercalate_singleton, List.intercalate_singleton]
    | cons s' ss =>
      rw [List.intercalate_cons_cons, List.append_assoc, List.singleton_append, lowercase, hc.lowercaseFrom_append,
        ih, List.map_cons, List.map_cons, List.map_cons, List.intercalate_cons_cons, List.append_assoc,
        List.singleton_append]
      rfl

/-- Lower-casing and then splitting at breaks gives back the lower-cased parts. -/
theorem splitOn_lowercase_intercalate {ss : List (List Char)} (hne : ss ≠ []) (h : ∀ s ∈ ss, c ∉ s) :
    (lowercase ([c].intercalate ss)).splitOn c = ss.map lowercase := by
  rw [hc.lowercase_intercalate]
  refine List.splitOn_intercalate c (fun s' hs' hmem => ?_) (fun hnil => hne (List.map_eq_nil_iff.mp hnil))
  obtain ⟨s, hs, rfl⟩ := List.mem_map.mp hs'
  exact h s hs (hc.mem_of_mem_lowercaseFrom hmem)

end IsBreak

end Entitlement.Text
