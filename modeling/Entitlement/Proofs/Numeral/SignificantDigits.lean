import Entitlement.Numeral.Significant
import Entitlement.Proofs.Numeral.Nearest

/-!
# `Entitlement.Proofs.Numeral.SignificantDigits` — the significant digits of a double

A finite magnitude above zero, rounded to a number of significant digits, has a coefficient of just that many digits,
and the coefficient is nearest to the magnitude in units of its last digit, ties to even (`significant_spec`). The
search for the leading digit finds the power of ten below the magnitude (`decimalPlace_spec`), and rounding up to the
next power of ten is caught by moving the exponent.
-/

namespace Entitlement.Numeral

/-! ## Rounding a quotient -/

/-- A number of units of `10 ^ k` is nearest to a value, and an even one when another is as near. -/
structure IsRounded (v : ℚ) (c : Nat) (k : Int) : Prop where
  half : 2 * |v - c * 10 ^ k| ≤ 10 ^ k
  tie : 2 * |v - c * 10 ^ k| = 10 ^ k → c % 2 = 0

/-- A coefficient with a zero at its end may be counted in units that are ten times as great. -/
theorem IsRounded.carry {v : ℚ} {c : Nat} {k : Int} (h : IsRounded v (10 * c) k) : IsRounded v c (k + 1) := by
  have hpow : (0 : ℚ) < 10 ^ k := by positivity
  have hunit : (10 : ℚ) ^ (k + 1) = 10 * 10 ^ k := by rw [zpow_add₀ (by norm_num), zpow_one, mul_comm]
  have hvalue : (c : ℚ) * 10 ^ (k + 1) = ((10 * c : Nat) : ℚ) * 10 ^ k := by
    rw [hunit]
    push_cast
    ring
  have hhalf := h.half
  constructor
  · rw [hvalue, hunit]
    linarith
  · rw [hvalue, hunit]
    intro htie
    linarith

theorem div_le_roundHalfEven (num den : Nat) : num / den ≤ roundHalfEven num den := by
  unfold roundHalfEven
  dsimp only
  split
  · exact Nat.le_refl _
  · split
    · exact Nat.le_succ _
    · exact Nat.le_add_right _ _

theorem roundHalfEven_le_succ (num den : Nat) : roundHalfEven num den ≤ num / den + 1 := by
  unfold roundHalfEven
  dsimp only
  split
  · exact Nat.le_succ _
  · split
    · exact Nat.le_refl _
    · omega

theorem le_roundHalfEven_of_le {num den m : Nat} (hden : 0 < den) (h : m * den ≤ num) : m ≤ roundHalfEven num den :=
  ((Nat.le_div_iff_mul_le hden).mpr h).trans (div_le_roundHalfEven num den)

theorem roundHalfEven_le_of_lt {num den m : Nat} (hden : 0 < den) (h : num < m * den) : roundHalfEven num den ≤ m :=
  (roundHalfEven_le_succ num den).trans ((Nat.div_lt_iff_lt_mul hden).mpr h)

/-- A quotient that lies half-way is rounded to an even integer. -/
theorem even_roundHalfEven {num den : Nat} (hden : 0 < den)
    (htie : 2 * num = (2 * roundHalfEven num den + 1) * den ∨ 2 * roundHalfEven num den * den = 2 * num + den) :
    roundHalfEven num den % 2 = 0 := by
  have hdiv := Nat.div_add_mod num den
  have hlt := Nat.mod_lt num hden
  unfold roundHalfEven at htie ⊢
  dsimp only at htie ⊢
  generalize num / den = q at *
  generalize num % den = r at *
  subst hdiv
  have hodd (m : Nat) : (2 * m + 1) * den = 2 * (den * m) + den := by ring
  have heven (m : Nat) : 2 * m * den = 2 * (den * m) := by ring
  have hsucc : den * (q + 1) = den * q + den := by ring
  split at htie
  · rw [hodd, heven] at htie
    omega
  · rename_i hlow
    split at htie
    · rw [hodd, heven, hsucc] at htie
      omega
    · rename_i hhigh
      rw [if_neg hlow, if_neg hhigh]
      omega

/-- The rounded quotient is the nearest integer to the exact one. -/
theorem isRounded_roundHalfEven {num den : Nat} (hden : 0 < den) (k : Int) :
    IsRounded ((num : ℚ) / den * 10 ^ k) (roundHalfEven num den) k := by
  have hden' : (0 : ℚ) < den := by exact_mod_cast hden
  have hpow : (0 : ℚ) < 10 ^ k := by positivity
  have hnum : (num : ℚ) = (num : ℚ) / den * den := by field_simp
  have hhigh : (2 * num : ℚ) ≤ (2 * roundHalfEven num den + 1) * den := by exact_mod_cast le_roundHalfEven hden
  have hlow : (2 * roundHalfEven num den * den : ℚ) ≤ 2 * num + den := by exact_mod_cast roundHalfEven_le hden
  have htie (h : (2 * num : ℚ) = (2 * roundHalfEven num den + 1) * den ∨
      (2 * roundHalfEven num den * den : ℚ) = 2 * num + den) : roundHalfEven num den % 2 = 0 := by
    apply even_roundHalfEven hden
    exact_mod_cast h
  have hscale : 2 * |(num : ℚ) / den * 10 ^ k - roundHalfEven num den * 10 ^ k| =
      2 * |(num : ℚ) / den - roundHalfEven num den| * 10 ^ k := by
    rw [← sub_mul, abs_mul, abs_of_pos hpow, mul_assoc]
  generalize roundHalfEven num den = c at *
  generalize (num : ℚ) / den = t at *
  rw [hnum] at hhigh hlow htie
  constructor
  · rw [hscale]
    have hbound : 2 * |t - c| ≤ 1 := by
      have hup : 2 * t ≤ 2 * c + 1 := by nlinarith
      have hdown : 2 * (c : ℚ) ≤ 2 * t + 1 := by nlinarith
      rcases abs_cases (t - c) with ⟨h, -⟩ | ⟨h, -⟩ <;> rw [h] <;> linarith
    calc 2 * |t - c| * 10 ^ k ≤ 1 * 10 ^ k := mul_le_mul_of_nonneg_right hbound hpow.le
      _ = 10 ^ k := one_mul _
  · rw [hscale]
    intro h
    have hone : 2 * |t - c| = 1 := mul_right_cancel₀ hpow.ne' (h.trans (one_mul _).symm)
    apply htie
    rcases abs_cases (t - c) with ⟨habs, -⟩ | ⟨habs, -⟩
    · left
      have ht : t = c + 1 / 2 := by linarith
      rw [ht]
      ring
    · right
      have ht : t = c - 1 / 2 := by linarith
      rw [ht]
      ring

namespace Binary64

/-! ## The leading digit -/

/-- The search for a power of ten ends at the last one that is not above a value. -/
theorem greatest_pow_ten {a b c bits : Nat} (hleast : b ≤ a) (hlt : a < c)
    (hgreatest : c ≤ Nat.pow 10 (Nat.pow 2 bits) * b) :
    Nat.pow 10 (greatest (fun k => Nat.pow 10 k * b ≤ a) 0 bits) * b ≤ a ∧
      a < Nat.pow 10 (greatest (fun k => Nat.pow 10 k * b ≤ a) 0 bits + 1) * b := by
  have hzero : decide (Nat.pow 10 0 * b ≤ a) = true := by
    rw [decide_eq_true_eq]
    show 1 * b ≤ a
    rw [Nat.one_mul]
    exact hleast
  have hend : decide (Nat.pow 10 (0 + Nat.pow 2 bits) * b ≤ a) = false := by
    rw [decide_eq_false_iff_not, Nat.zero_add]
    exact Nat.not_le_of_lt (Nat.lt_of_lt_of_le hlt hgreatest)
  have hholds := @greatest_holds (fun k => decide (Nat.pow 10 k * b ≤ a)) 0 hzero bits
  have hfails := @greatest_succ_fails (fun k => decide (Nat.pow 10 k * b ≤ a)) 0 bits hend
  exact ⟨of_decide_eq_true hholds, Nat.lt_of_not_le (of_decide_eq_false hfails)⟩

/-- The power of ten of the leading digit is not above the magnitude, and the next one is. -/
theorem decimalPlace_spec {n : Nat} (hn : 0 < n) (hfinite : n < infinityMagnitude) :
    Nat.pow 10 (decimalPlace n) * unitsPerOne ≤ units n * Nat.pow 10 324 ∧
      units n * Nat.pow 10 324 < Nat.pow 10 (decimalPlace n + 1) * unitsPerOne := by
  refine greatest_pow_ten (c := units infinityMagnitude * Nat.pow 10 324) ?_ ?_ ?_
  · have hclosed : unitsPerOne ≤ units 1 * Nat.pow 10 324 := by decide +kernel
    have hunits : units 1 ≤ units n := units_strictMono.monotone hn
    exact Nat.le_trans hclosed (Nat.mul_le_mul_right _ hunits)
  · exact Nat.mul_lt_mul_of_pos_right (units_strictMono hfinite) (by decide +kernel)
  · decide +kernel

/-! ## The rounded magnitude -/

/-- The unit of the last digit, in which the coefficient of a magnitude is counted before it is carried. -/
theorem magnitudeValue_eq (digits n place : Nat) :
    magnitudeValue n = ((units n * Nat.pow 10 (323 + digits) : Nat) : ℚ) / (unitsPerOne * Nat.pow 10 place : Nat) *
      10 ^ ((place : Int) - (323 + digits)) := by
  have hone := unitsPerOne_pos
  have hexponent : (323 + digits : Int) = ((323 + digits : Nat) : Int) := by push_cast; rfl
  rw [magnitudeValue, hexponent, zpow_sub₀ (by norm_num), zpow_natCast, zpow_natCast, Nat.pow_eq, Nat.pow_eq]
  generalize 323 + digits = m
  push_cast
  field_simp

/-- Digits that are asked for beyond the leading one scale the quotient. -/
theorem roundHalfEven_scaled_bounds {u one scale scaled place d : Nat} (hone : 0 < one)
    (hscaled : scaled = scale * 10 ^ d) (hlow : Nat.pow 10 place * one ≤ u * scale)
    (hhigh : u * scale < Nat.pow 10 (place + 1) * one) :
    10 ^ d ≤ roundHalfEven (u * scaled) (one * Nat.pow 10 place) ∧
      roundHalfEven (u * scaled) (one * Nat.pow 10 place) ≤ 10 ^ (d + 1) := by
  have hden : 0 < one * Nat.pow 10 place := Nat.mul_pos hone (Nat.pow_pos (by decide))
  rw [hscaled, ← Nat.mul_assoc]
  constructor
  · apply le_roundHalfEven_of_le hden
    calc 10 ^ d * (one * Nat.pow 10 place) = Nat.pow 10 place * one * 10 ^ d := by ring
      _ ≤ u * scale * 10 ^ d := Nat.mul_le_mul_right _ hlow
  · apply roundHalfEven_le_of_lt hden
    calc u * scale * 10 ^ d < Nat.pow 10 (place + 1) * one * 10 ^ d :=
          Nat.mul_lt_mul_of_pos_right hhigh (Nat.pow_pos (by decide))
      _ = 10 ^ (d + 1) * (one * Nat.pow 10 place) := by
        rw [Nat.pow_eq, Nat.pow_eq, Nat.pow_succ, Nat.pow_succ]
        ring

/-- A coefficient that has reached the next power of ten is carried. -/
theorem carried_spec {v : ℚ} {c d : Nat} {e e' : Int} (hlow : 10 ^ d ≤ c) (hhigh : c ≤ 10 ^ (d + 1))
    (hrounded : IsRounded v c (e - d)) (he : e' = e + 1) {s : Significant}
    (hs : s = if c = Nat.pow 10 (d + 1) then ⟨Nat.pow 10 d, e'⟩ else ⟨c, e⟩) :
    10 ^ d ≤ s.coefficient ∧ s.coefficient < 10 ^ (d + 1) ∧ IsRounded v s.coefficient (s.exponent - d) := by
  subst hs he
  split
  · rename_i hc
    rw [hc, Nat.pow_eq, Nat.pow_succ, Nat.mul_comm] at hrounded
    refine ⟨Nat.le_refl _, Nat.pow_lt_pow_right (by decide) (Nat.lt_succ_self d), ?_⟩
    have hexponent : e + 1 - (d : Int) = e - d + 1 := by omega
    rw [hexponent]
    exact hrounded.carry
  · rename_i hc
    exact ⟨hlow, Nat.lt_of_le_of_ne hhigh hc, hrounded⟩

/-- **The significant digits of a magnitude.** There are as many as asked for, the first of them is not zero, and the
    number that they make is nearest to the magnitude in units of the last of them. -/
theorem significant_spec (d : Nat) {n : Nat} (hn : 0 < n) (hfinite : n < infinityMagnitude) :
    10 ^ d ≤ (significant (d + 1) n).coefficient ∧ (significant (d + 1) n).coefficient < 10 ^ (d + 1) ∧
      IsRounded (magnitudeValue n) (significant (d + 1) n).coefficient ((significant (d + 1) n).exponent - d) := by
  have hone : 0 < unitsPerOne := by decide +kernel
  have hden : 0 < unitsPerOne * Nat.pow 10 (decimalPlace n) := Nat.mul_pos hone (Nat.pow_pos (by decide))
  -- the power is given a name, lest it be formed
  obtain ⟨scale, hscale, hlow, hhigh⟩ : ∃ scale, Nat.pow 10 324 = scale ∧
      Nat.pow 10 (decimalPlace n) * unitsPerOne ≤ units n * scale ∧
      units n * scale < Nat.pow 10 (decimalPlace n + 1) * unitsPerOne := ⟨_, rfl, decimalPlace_spec hn hfinite⟩
  have hsplit {k m : Nat} (hm : Nat.pow 10 m = scale) (h : k + 1 = m) :
      Nat.pow 10 (k + (d + 1)) = scale * 10 ^ d := by
    rw [← hm, Nat.pow_eq, Nat.pow_eq, ← Nat.pow_add, ← h, Nat.add_comm d, Nat.add_assoc]
  have hscaled : Nat.pow 10 (323 + (d + 1)) = scale * 10 ^ d := hsplit hscale rfl
  obtain ⟨hlow, hhigh⟩ := roundHalfEven_scaled_bounds hone hscaled hlow hhigh
  have hrounded := @isRounded_roundHalfEven (units n * Nat.pow 10 (323 + (d + 1))) _ hden
    ((decimalPlace n : Int) - (323 + (d + 1 : Nat)))
  rw [← magnitudeValue_eq] at hrounded
  have hexponent : (decimalPlace n : Int) - (323 + (d + 1 : Nat)) = (decimalPlace n : Int) - 324 - d := by omega
  rw [hexponent] at hrounded
  have hcarry : (decimalPlace n : Int) - 323 = (decimalPlace n : Int) - 324 + 1 := by omega
  refine carried_spec hlow hhigh hrounded hcarry ?_
  rw [significant]
  rfl

end Binary64

end Entitlement.Numeral
