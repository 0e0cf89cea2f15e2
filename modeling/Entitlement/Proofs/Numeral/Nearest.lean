import Entitlement.Proofs.Numeral.Literal
import Mathlib.Algebra.Order.Field.Power
import Mathlib.Data.Rat.Cast.Order
import Mathlib.Order.Monotone.Basic
import Mathlib.Tactic.FieldSimp
import Mathlib.Tactic.Linarith
import Mathlib.Tactic.Positivity

/-!
# `Entitlement.Proofs.Numeral.Nearest` — the double of a literal is the nearest one

What it means that a magnitude is nearest to a number, ties to the even one, is said without a computation
(`IsNearest`); infinity counts as the magnitude behind the greatest finite one. The double of a decimal literal has
the sign of the literal and the magnitude nearest to its absolute value, also where it is found without forming a
power of ten (`isNearest_toBinary64`). Nearest magnitudes never go down as the numbers go up (`IsNearest.mono`), and
so the order of exact values is kept, if not always strictly, by their doubles (`signedUnits_toBinary64_mono`).
-/

namespace Entitlement.Numeral

namespace Binary64

/-! ## The values of magnitudes -/

/-- From `2 ^ 52` on: `2 ^ 52` magnitudes with the same step, then as many with twice that step. -/
theorem units_run {q r : Nat} (hr : r < 0x10000000000000) :
    units (0x10000000000000 * (q + 1) + r) = (0x10000000000000 + r) * 2 ^ q := by
  have hdiv : (0x10000000000000 * (q + 1) + r) / 0x10000000000000 = q + 1 := by omega
  have hmod : (0x10000000000000 * (q + 1) + r) % 0x10000000000000 = r := by omega
  rw [units, if_neg (by omega), hdiv, hmod]
  rfl

theorem units_lt_succ (n : Nat) : units n < units (n + 1) := by
  by_cases hn : n < 0x10000000000000
  · rw [units, if_pos hn]
    by_cases hn' : n + 1 < 0x10000000000000
    · rw [units, if_pos hn']
      exact Nat.lt_succ_self n
    · obtain rfl : n = 0xFFFFFFFFFFFFF := by omega
      decide
  · obtain ⟨q, r, hr, rfl⟩ : ∃ q r, r < 0x10000000000000 ∧ n = 0x10000000000000 * (q + 1) + r :=
      ⟨n / 0x10000000000000 - 1, n % 0x10000000000000, Nat.mod_lt _ (by decide), by omega⟩
    have hpow : 0 < 2 ^ q := Nat.two_pow_pos q
    rw [units_run hr]
    by_cases hr' : r + 1 < 0x10000000000000
    · rw [Nat.add_assoc, units_run hr']
      exact Nat.mul_lt_mul_of_pos_right (by omega) hpow
    · -- the last magnitude of a run: behind it the step doubles
      obtain rfl : r = 0xFFFFFFFFFFFFF := by omega
      have hnext : 0x10000000000000 * (q + 1) + 0xFFFFFFFFFFFFF + 1 = 0x10000000000000 * (q + 1 + 1) + 0 := by omega
      rw [hnext, units_run (by decide), Nat.pow_succ]
      omega

theorem units_strictMono : StrictMono units := strictMono_nat_of_lt_succ units_lt_succ

theorem unitsPerOne_pos : (0 : ℚ) < unitsPerOne := by
  have h : 0 < unitsPerOne := by decide +kernel
  exact_mod_cast h

/-- The value of the magnitude numbered `n`. -/
def magnitudeValue (n : Nat) : ℚ := units n / unitsPerOne

theorem magnitudeValue_strictMono : StrictMono magnitudeValue := by
  intro m n h
  have hunits : (units m : ℚ) < units n := by exact_mod_cast units_strictMono h
  exact div_lt_div_of_pos_right hunits unitsPerOne_pos

/-! ## Nearest magnitudes -/

/-- Of all magnitudes up to infinity the one numbered `n` is nearest to a number, and it is an even one when another
    is as near. -/
structure IsNearest (n : Nat) (v : ℚ) : Prop where
  le : n ≤ infinityMagnitude
  nearest : ∀ m ≤ infinityMagnitude, |magnitudeValue n - v| ≤ |magnitudeValue m - v|
  tie : ∀ m ≤ infinityMagnitude, m ≠ n → |magnitudeValue m - v| = |magnitudeValue n - v| → n % 2 = 0

/-- Of two points the upper one is as near as the lower one exactly from their middle on. -/
theorem abs_upper_le_iff {a b v : ℚ} (h : a < b) : |b - v| ≤ |a - v| ↔ a + b ≤ 2 * v := by
  rcases abs_cases (b - v) with ⟨hb, hb'⟩ | ⟨hb, hb'⟩ <;> rcases abs_cases (a - v) with ⟨ha, ha'⟩ | ⟨ha, ha'⟩ <;>
    rw [hb, ha] <;> constructor <;> intro hle <;> linarith

theorem abs_lower_le_iff {a b v : ℚ} (h : a < b) : |a - v| ≤ |b - v| ↔ 2 * v ≤ a + b := by
  rcases abs_cases (b - v) with ⟨hb, hb'⟩ | ⟨hb, hb'⟩ <;> rcases abs_cases (a - v) with ⟨ha, ha'⟩ | ⟨ha, ha'⟩ <;>
    rw [hb, ha] <;> constructor <;> intro hle <;> linarith

/-- **Rounding is monotone.** A greater number does not have a smaller nearest magnitude. -/
theorem IsNearest.mono {n n' : Nat} {v v' : ℚ} (h : IsNearest n v) (h' : IsNearest n' v') (hv : v ≤ v') :
    n ≤ n' := by
  by_contra hlt
  have hlt : n' < n := Nat.lt_of_not_le hlt
  have hvalue := magnitudeValue_strictMono hlt
  -- the middle of the two magnitudes lies between the numbers, so that both are this middle
  have hmiddle := (abs_upper_le_iff hvalue).mp (h.nearest n' h'.le)
  have hmiddle' := (abs_lower_le_iff hvalue).mp (h'.nearest n h.le)
  have hdistance : |magnitudeValue n' - v| = |magnitudeValue n - v| :=
    le_antisymm ((abs_lower_le_iff hvalue).mpr (by linarith)) ((abs_upper_le_iff hvalue).mpr hmiddle)
  obtain rfl : v = v' := by linarith
  have heven := h.tie n' h'.le (Nat.ne_of_lt hlt) hdistance
  have heven' := h'.tie n h.le (Nat.ne_of_gt hlt) hdistance.symm
  -- and between two even magnitudes stands one that is nearer
  have hbetween : n' + 1 < n := by omega
  have hnearer := (abs_upper_le_iff (magnitudeValue_strictMono hbetween)).mp
    (h.nearest (n' + 1) (Nat.le_trans (Nat.le_of_lt hbetween) h.le))
  have hup := magnitudeValue_strictMono (Nat.lt_succ_self n')
  have hup' : magnitudeValue n' < magnitudeValue (n' + 1) := hup
  linarith

/-- A number has one nearest magnitude. -/
theorem IsNearest.unique {n n' : Nat} {v : ℚ} (h : IsNearest n v) (h' : IsNearest n' v) : n = n' :=
  Nat.le_antisymm (h.mono h' (le_refl v)) (h'.mono h (le_refl v))

/-- A magnitude that is nearer than all others is nearest. -/
theorem isNearest_of_lt {n : Nat} {v : ℚ} (hn : n ≤ infinityMagnitude)
    (h : ∀ m, m ≠ n → m ≤ infinityMagnitude → |magnitudeValue n - v| < |magnitudeValue m - v|) : IsNearest n v := by
  refine ⟨hn, fun m hm => ?_, fun m hm hne heq => absurd heq (ne_of_gt (h m hne hm))⟩
  by_cases hne : m = n
  · rw [hne]
  · exact le_of_lt (h m hne hm)

/-- A magnitude is nearest to its own value. -/
theorem isNearest_magnitudeValue {n : Nat} (hn : n ≤ infinityMagnitude) : IsNearest n (magnitudeValue n) := by
  apply isNearest_of_lt hn
  intro m hne hm
  rw [sub_self, abs_zero, abs_pos, sub_ne_zero]
  exact fun h => hne (magnitudeValue_strictMono.injective h)

/-- From the value of infinity on, infinity is nearest. -/
theorem isNearest_infinity {v : ℚ} (h : magnitudeValue infinityMagnitude ≤ v) : IsNearest infinityMagnitude v := by
  refine isNearest_of_lt (Nat.le_refl _) fun m hne hm => ?_
  have hvalue := magnitudeValue_strictMono (Nat.lt_of_le_of_ne hm hne)
  rw [abs_of_nonpos (by linarith), abs_of_nonpos (by linarith)]
  linarith

section Between

variable {b : Nat} {v : ℚ} (hlow : magnitudeValue b ≤ v) (hhigh : v < magnitudeValue (b + 1))

include hlow in
theorem lt_abs_of_lt {m : Nat} (hm : m < b) : v - magnitudeValue b < |magnitudeValue m - v| := by
  have hvalue := magnitudeValue_strictMono hm
  rw [abs_of_nonpos (by linarith)]
  linarith

include hhigh in
theorem lt_abs_of_gt {m : Nat} (hm : b + 1 < m) : magnitudeValue (b + 1) - v < |magnitudeValue m - v| := by
  have hvalue := magnitudeValue_strictMono hm
  rw [abs_of_pos (by linarith)]
  linarith

include hlow hhigh in
/-- Between two neighbouring magnitudes the nearer one is nearest, and of two that are as near the even one. -/
theorem isNearest_between {n : Nat} (hb : b < infinityMagnitude)
    (hn : 2 * v < magnitudeValue b + magnitudeValue (b + 1) ∧ n = b ∨
      magnitudeValue b + magnitudeValue (b + 1) < 2 * v ∧ n = b + 1 ∨
      2 * v = magnitudeValue b + magnitudeValue (b + 1) ∧ n = b + b % 2) : IsNearest n v := by
  have hdown : |magnitudeValue b - v| = v - magnitudeValue b := by
    rw [abs_of_nonpos (by linarith), neg_sub]
  have hup : |magnitudeValue (b + 1) - v| = magnitudeValue (b + 1) - v := abs_of_pos (by linarith)
  have hfar {m : Nat} (hm : m ≠ b) (hm' : m ≠ b + 1) :
      v - magnitudeValue b < |magnitudeValue m - v| ∨ magnitudeValue (b + 1) - v < |magnitudeValue m - v| := by
    rcases Nat.lt_or_gt_of_ne hm with hlt | hlt
    · exact .inl (lt_abs_of_lt hlow hlt)
    · exact .inr (lt_abs_of_gt hhigh (by omega))
  rcases hn with ⟨hv, rfl⟩ | ⟨hv, rfl⟩ | ⟨hv, rfl⟩
  · refine isNearest_of_lt (Nat.le_of_lt hb) fun m hne _ => ?_
    by_cases hm : m = n + 1
    · rw [hm, hdown, hup]
      linarith
    · rcases hfar hne hm with h | h <;> linarith
  · refine isNearest_of_lt hb fun m hne _ => ?_
    by_cases hm : m = b
    · rw [hm, hdown, hup]
      linarith
    · rcases hfar hm hne with h | h <;> linarith
  · have hdistance : |magnitudeValue (b + b % 2) - v| = v - magnitudeValue b := by
      rcases Nat.mod_two_eq_zero_or_one b with h | h
      · rw [h, Nat.add_zero, hdown]
      · rw [h, hup]
        linarith
    refine ⟨by omega, fun m _ => ?_, fun m _ _ _ => by omega⟩
    by_cases hm : m = b
    · rw [hm, hdistance, hdown]
    · by_cases hm' : m = b + 1
      · rw [hm', hdistance, hup]
        linarith
      · rcases hfar hm hm' with h | h <;> linarith

end Between

/-! ## The nearest magnitude of a ratio -/

section Ratio

variable {num den : Nat} (hden : 0 < den)

include hden in
theorem units_mul_le_iff (n : Nat) :
    units n * den ≤ num * unitsPerOne ↔ magnitudeValue n ≤ (num : ℚ) / den := by
  have hden' : (0 : ℚ) < den := by exact_mod_cast hden
  rw [magnitudeValue, div_le_div_iff₀ unitsPerOne_pos hden']
  exact_mod_cast Iff.rfl

include hden in
/-- A ratio lies below the middle of two magnitudes, or above it, exactly when the natural numbers say so. -/
theorem middle_iff (m n : Nat) :
    (2 * (num * unitsPerOne) < (units m + units n) * den ↔
      2 * ((num : ℚ) / den) < magnitudeValue m + magnitudeValue n) ∧
    ((units m + units n) * den < 2 * (num * unitsPerOne) ↔
      magnitudeValue m + magnitudeValue n < 2 * ((num : ℚ) / den)) := by
  have hden' : (0 : ℚ) < den := by exact_mod_cast hden
  have hunits := unitsPerOne_pos
  have hscale : (0 : ℚ) < den * unitsPerOne := mul_pos hden' hunits
  have htwice : 2 * ((num : ℚ) / den) * (den * unitsPerOne) = (2 * (num * unitsPerOne) : Nat) := by
    push_cast
    field_simp
  have hmiddle : (magnitudeValue m + magnitudeValue n) * (den * unitsPerOne) =
      ((units m + units n) * den : Nat) := by
    unfold magnitudeValue
    push_cast
    field_simp
  constructor
  · rw [← mul_lt_mul_iff_left₀ hscale, htwice, hmiddle, Nat.cast_lt]
  · rw [← mul_lt_mul_iff_left₀ hscale, htwice, hmiddle, Nat.cast_lt]

include hden in
/-- **The search finds it.** Cut off at infinity, the magnitude that is computed for a ratio is nearest to it. -/
theorem isNearest_nearestMagnitude :
    IsNearest (min (nearestMagnitude num den) infinityMagnitude) ((num : ℚ) / den) := by
  have hdown : ∀ m n, m ≤ n → decide (units n * den ≤ num * unitsPerOne) = true →
      decide (units m * den ≤ num * unitsPerOne) = true := by
    intro m n hmn hn
    rw [decide_eq_true_eq] at hn ⊢
    exact Nat.le_trans (Nat.mul_le_mul_right den (units_strictMono.monotone hmn)) hn
  have hzero : decide (units 0 * den ≤ num * unitsPerOne) = true := by
    rw [units, if_pos (by decide), Nat.zero_mul]
    exact decide_eq_true (Nat.zero_le _)
  have hlow := @greatest_holds (fun n => decide (units n * den ≤ num * unitsPerOne)) 0 hzero 63
  have hhigh (n : Nat) := @le_greatest_of_holds _ 0 hdown 63 n
  unfold nearestMagnitude
  dsimp only
  generalize greatest (fun n => decide (units n * den ≤ num * unitsPerOne)) 0 63 = b at hlow hhigh ⊢
  rw [decide_eq_true_eq, units_mul_le_iff hden] at hlow
  obtain ⟨hbelow, habove⟩ : _ ∧ _ := middle_iff hden b (b + 1)
  by_cases hb : b < infinityMagnitude
  · have hnext : (num : ℚ) / den < magnitudeValue (b + 1) := by
      refine lt_of_not_ge fun hle => ?_
      have hmax := hhigh (b + 1) (decide_eq_true ((units_mul_le_iff hden (b + 1)).mpr hle))
      have hbound : b + 1 < 0 + Nat.pow 2 63 := Nat.lt_of_le_of_lt hb (by decide)
      exact absurd (hmax hbound) (Nat.not_succ_le_self b)
    refine isNearest_between hlow hnext hb ?_
    split
    · rename_i h
      exact .inl ⟨hbelow.mp h, Nat.min_eq_left (Nat.le_of_lt hb)⟩
    · rename_i h
      split
      · rename_i h'
        exact .inr (.inl ⟨habove.mp h', Nat.min_eq_left hb⟩)
      · rename_i h'
        refine .inr (.inr ⟨le_antisymm ?_ ?_, Nat.min_eq_left (by omega)⟩)
        · exact le_of_not_gt fun hlt => h' (habove.mpr hlt)
        · exact le_of_not_gt fun hlt => h (hbelow.mpr hlt)
  · have hmin : ∀ n, b ≤ n → min n infinityMagnitude = infinityMagnitude := fun n hn => by omega
    have hinfinity : magnitudeValue infinityMagnitude ≤ (num : ℚ) / den :=
      le_trans (magnitudeValue_strictMono.monotone (Nat.le_of_not_lt hb)) hlow
    have hresult := isNearest_infinity hinfinity
    split
    · rwa [hmin b (Nat.le_refl b)]
    · split
      · rwa [hmin (b + 1) (Nat.le_succ b)]
      · rwa [hmin (b + b % 2) (Nat.le_add_right b _)]

end Ratio

theorem magnitudeValue_zero : magnitudeValue 0 = 0 := by
  rw [magnitudeValue, units, if_pos (by decide), Nat.cast_zero, zero_div]

theorem magnitudeValue_one_pos : 0 < magnitudeValue 1 :=
  magnitudeValue_zero.symm.trans_lt (magnitudeValue_strictMono Nat.zero_lt_one)

/-- Below half the least magnitude, zero is nearest. -/
theorem isNearest_zero {v : ℚ} (hv : 0 ≤ v) (h : 2 * v < magnitudeValue 1) : IsNearest 0 v := by
  have hzero := magnitudeValue_zero
  refine isNearest_between (b := 0) (by linarith) (by linarith) (by decide) (.inl ⟨?_, rfl⟩)
  linarith

theorem isNearest_zero_zero : IsNearest 0 0 := by
  have hone := magnitudeValue_one_pos
  exact isNearest_zero (le_refl 0) (by linarith)

end Binary64

/-! ## The double of a literal -/

namespace Decimal

/-- The number of digits says between which powers of ten a number lies. -/
theorem lt_pow_length_toDigits (n : Nat) : n < 10 ^ (Nat.toDigits 10 n).length :=
  (Nat.length_toDigits_le_iff (by decide) Nat.length_toDigits_pos).mp (Nat.le_refl _)

theorem pow_le_of_toDigits {n k : Nat} (hn : n ≠ 0) (h : k < (Nat.toDigits 10 n).length) : 10 ^ k ≤ n := by
  rcases Nat.eq_zero_or_pos k with rfl | hk
  · exact Nat.pos_of_ne_zero hn
  · refine Nat.le_of_not_lt fun hlt => ?_
    have := (Nat.length_toDigits_le_iff (b := 10) (by decide) hk).mpr hlt
    omega

theorem cast_pow_ten (n : Nat) : ((Nat.pow 10 n : Nat) : ℚ) = 10 ^ (n : Int) := by
  rw [Nat.pow_eq, Nat.cast_pow, zpow_natCast, Nat.cast_ofNat]

/-- A literal whose leading digit stands more than `k` places in front of the point exceeds all finite doubles, if `k`
    is great enough. -/
theorem le_absValue_of_lt {d : Decimal} (hd : d.coefficient ≠ 0) {k : Nat}
    (hk : Binary64.units Binary64.infinityMagnitude ≤ Nat.pow 10 k * Binary64.unitsPerOne)
    (h : (k : Int) < ((Nat.toDigits 10 d.coefficient).length : Int) + d.exponent) :
    Binary64.magnitudeValue Binary64.infinityMagnitude ≤ d.absValue := by
  have hlength := Nat.length_toDigits_pos (b := 10) (n := d.coefficient)
  have hcoefficient : 10 ^ ((Nat.toDigits 10 d.coefficient).length - 1) ≤ d.coefficient :=
    pow_le_of_toDigits hd (by omega)
  generalize (Nat.toDigits 10 d.coefficient).length = width at h hlength hcoefficient
  calc Binary64.magnitudeValue Binary64.infinityMagnitude
      ≤ (Nat.pow 10 k : Nat) := by
        rw [Binary64.magnitudeValue, div_le_iff₀ Binary64.unitsPerOne_pos, ← Nat.cast_mul, Nat.cast_le]
        exact hk
    _ = 10 ^ (k : Int) := cast_pow_ten k
    _ ≤ 10 ^ (((width - 1 : Nat) : Int) + d.exponent) := zpow_le_zpow_right₀ (by norm_num) (by omega)
    _ = 10 ^ ((width - 1 : Nat) : Int) * 10 ^ d.exponent := zpow_add₀ (by norm_num) _ _
    _ ≤ d.absValue := by
        refine mul_le_mul_of_nonneg_right ?_ (by positivity)
        rw [zpow_natCast]
        exact_mod_cast hcoefficient

/-- A literal whose leading digit stands `k` places or more behind the point is below half the least double, if `k` is
    great enough. -/
theorem absValue_lt_of_le {d : Decimal} {k : Nat} (hk : 2 * Binary64.unitsPerOne < Nat.pow 10 k)
    (h : ((Nat.toDigits 10 d.coefficient).length : Int) + d.exponent ≤ -k) :
    2 * d.absValue < Binary64.magnitudeValue 1 := by
  have hcoefficient := lt_pow_length_toDigits d.coefficient
  generalize (Nat.toDigits 10 d.coefficient).length = width at h hcoefficient
  have hvalue : d.absValue ≤ (10 ^ (k : Int))⁻¹ := by
    calc d.absValue
        ≤ 10 ^ (width : Int) * 10 ^ d.exponent := by
          refine mul_le_mul_of_nonneg_right ?_ (by positivity)
          rw [zpow_natCast]
          exact_mod_cast Nat.le_of_lt hcoefficient
      _ = 10 ^ ((width : Int) + d.exponent) := (zpow_add₀ (by norm_num) _ _).symm
      _ ≤ 10 ^ (-(k : Int)) := zpow_le_zpow_right₀ (by norm_num) h
      _ = (10 ^ (k : Int))⁻¹ := zpow_neg _ _
  have hone : Binary64.units 1 = 1 := by decide
  calc 2 * d.absValue
      ≤ 2 / 10 ^ (k : Int) := by
        rw [div_eq_mul_inv]
        linarith
    _ < Binary64.magnitudeValue 1 := by
        rw [Binary64.magnitudeValue, div_lt_div_iff₀ (by positivity) Binary64.unitsPerOne_pos, hone, Nat.cast_one,
          one_mul, ← cast_pow_ten]
        exact_mod_cast hk

/-- The value as a ratio of natural numbers. -/
theorem absValue_eq_div (d : Decimal) :
    d.absValue = ((d.coefficient * Nat.pow 10 d.exponent.toNat : Nat) : ℚ) /
      (Nat.pow 10 (-d.exponent).toNat : Nat) := by
  rw [Nat.cast_mul, cast_pow_ten, cast_pow_ten, mul_div_assoc, ← zpow_sub₀ (by norm_num), absValue]
  have hexponent : ((d.exponent.toNat : Int) - ((-d.exponent).toNat : Int)) = d.exponent := by omega
  rw [hexponent]

/-- **Correct rounding.** The double of a literal is the one nearest to its value. -/
theorem isNearest_toBinary64 (d : Decimal) : Binary64.IsNearest d.toBinary64.magnitude d.absValue := by
  unfold toBinary64
  dsimp only
  split
  · rename_i h
    rw [Binary64.zero, Binary64.magnitude_ofMagnitude (by decide)]
    rw [absValue, h, Nat.cast_zero, zero_mul]
    exact Binary64.isNearest_zero_zero
  · rename_i hd
    split
    · rename_i h
      rw [Binary64.infinity, Binary64.magnitude_ofMagnitude (by decide)]
      exact Binary64.isNearest_infinity (le_absValue_of_lt hd (k := 310) (by decide +kernel) h)
    · split
      · rename_i h
        rw [Binary64.zero, Binary64.magnitude_ofMagnitude (by decide)]
        exact Binary64.isNearest_zero d.absValue_nonneg (absValue_lt_of_le (k := 330) (by decide +kernel) (by omega))
      · rw [Binary64.magnitude_nearest, absValue_eq_div]
        exact Binary64.isNearest_nearestMagnitude (Nat.pow_pos (by decide))

theorem negative_toBinary64 (d : Decimal) : d.toBinary64.negative = d.negative := by
  unfold toBinary64
  dsimp only
  split
  · rfl
  · split
    · rfl
    · split <;> rfl

/-- The double of a literal is the one with its sign and the magnitude nearest to its absolute value. -/
theorem toBinary64_eq_iff {d : Decimal} {x : Binary64} :
    d.toBinary64 = x ↔ x.negative = d.negative ∧ Binary64.IsNearest x.magnitude d.absValue := by
  constructor
  · rintro rfl
    exact ⟨d.negative_toBinary64, d.isNearest_toBinary64⟩
  · rintro ⟨hnegative, hnearest⟩
    have hmagnitude := d.isNearest_toBinary64.unique hnearest
    rw [← d.negative_toBinary64] at hnegative
    obtain ⟨negative, magnitude, hlt⟩ := x
    generalize d.toBinary64 = y at hnegative hmagnitude ⊢
    obtain ⟨negative', magnitude', hlt'⟩ := y
    obtain rfl : negative = negative' := hnegative
    obtain rfl : magnitude' = magnitude := hmagnitude
    rfl

/-- **The order of values is kept.** A double is never greater than that of a literal of greater or equal value. -/
theorem signedUnits_toBinary64_mono {d d' : Decimal} (h : d.value ≤ d'.value) :
    d.toBinary64.signedUnits ≤ d'.toBinary64.signedUnits := by
  have hmono (c c' : Decimal) (hle : c.absValue ≤ c'.absValue) :
      Binary64.units c.toBinary64.magnitude ≤ Binary64.units c'.toBinary64.magnitude :=
    Binary64.units_strictMono.monotone (c.isNearest_toBinary64.mono c'.isNearest_toBinary64 hle)
  have hd := d.absValue_nonneg
  have hd' := d'.absValue_nonneg
  unfold value at h
  unfold Binary64.signedUnits
  rw [negative_toBinary64, negative_toBinary64]
  cases hneg : d.negative <;> cases hneg' : d'.negative <;>
    simp only [hneg, hneg', Bool.false_eq_true, if_false, if_true] at h ⊢
  · exact_mod_cast hmono d d' h
  · -- a number that is not negative is at most one that is not positive: both are zero
    have hunits (c : Decimal) (hc : c.absValue = 0) : Binary64.units c.toBinary64.magnitude = 0 := by
      have hle := c.isNearest_toBinary64.mono Binary64.isNearest_zero_zero (le_of_eq hc)
      rw [Nat.le_zero.mp hle]
      rfl
    rw [hunits d (by linarith), hunits d' (by linarith)]
    exact le_refl 0
  · omega
  · have hle := hmono d' d (by linarith)
    omega

end Decimal

end Entitlement.Numeral
