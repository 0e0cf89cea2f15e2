/-!
# `Entitlement.Numeral.Rounding` — rounding a quotient to the nearest integer

## Contents
- **`roundHalfEven`**: the nearest integer, a tie going to the even neighbour, with the two bounds that say
  it is within half a unit.
-/

namespace Entitlement.Numeral

/-- The integer nearest to `num / den`; of two that are equally near, the even one. -/
def roundHalfEven (num den : Nat) : Nat :=
  let q := num / den
  let r := num % den
  if 2 * r < den then q
  else if den < 2 * r then q + 1
  else q + q % 2

/-- The rounded quotient is at most half a unit too small. -/
theorem le_roundHalfEven {num den : Nat} (h : 0 < den) :
    2 * num ≤ (2 * roundHalfEven num den + 1) * den := by
  have hdiv := Nat.div_add_mod num den
  have hlt := Nat.mod_lt num h
  unfold roundHalfEven
  simp only
  generalize num / den = q at *
  generalize num % den = r at *
  subst hdiv
  have e : (2 * q + 1) * den = 2 * (den * q) + den := by
    rw [Nat.add_mul, Nat.mul_assoc, Nat.mul_comm q den, Nat.one_mul]
  have e' : (2 * (q + 1) + 1) * den = 2 * (den * q) + 3 * den := by
    rw [show 2 * (q + 1) + 1 = 2 * q + 3 by omega, Nat.add_mul, Nat.mul_assoc, Nat.mul_comm q den]
  split
  · rw [e]; omega
  · split
    · rw [e']; omega
    · rcases Nat.mod_two_eq_zero_or_one q with hq | hq
      · simp only [hq, Nat.add_zero, e]; omega
      · simp only [hq, e']; omega

/-- The rounded quotient is at most half a unit too great. -/
theorem roundHalfEven_le {num den : Nat} (h : 0 < den) :
    2 * roundHalfEven num den * den ≤ 2 * num + den := by
  have hdiv := Nat.div_add_mod num den
  have hlt := Nat.mod_lt num h
  unfold roundHalfEven
  simp only
  generalize num / den = q at *
  generalize num % den = r at *
  subst hdiv
  have e : 2 * q * den = 2 * (den * q) := by rw [Nat.mul_assoc, Nat.mul_comm q den]
  have e' : 2 * (q + 1) * den = 2 * (den * q) + 2 * den := by
    rw [show 2 * (q + 1) = 2 * q + 2 by omega, Nat.add_mul, e]
  split
  · rw [e]; omega
  · split
    · rw [e']; omega
    · rcases Nat.mod_two_eq_zero_or_one q with hq | hq
      · simp only [hq, Nat.add_zero, e]; omega
      · simp only [hq, e']; omega

end Entitlement.Numeral
