/-!
# `Entitlement.Numeral.Search` — the greatest number with a property

Rounding looks for the last point of a grid that does not exceed a value. For a property that holds up to
some number and not beyond it, `greatest` finds that number by fixing its binary digits from the top.

## Contents
- **`greatest`**: it has the property (`greatest_holds`) and its successor does not (`greatest_succ_fails`); no greater
  number has it when the property does not come back (`le_greatest_of_holds`).
-/

namespace Entitlement.Numeral

/-- The greatest number below `2 ^ bits` with a property that no greater number regains, counted from
    `base`; `base` when there is none. -/
def greatest (holds : Nat → Bool) (base : Nat) : Nat → Nat
  | 0 => base
  | bits + 1 =>
    if holds (base + Nat.pow 2 bits) then greatest holds (base + Nat.pow 2 bits) bits
    else greatest holds base bits

variable {holds : Nat → Bool}

theorem pow_two_succ (bits : Nat) : Nat.pow 2 (bits + 1) = Nat.pow 2 bits + Nat.pow 2 bits := by
  show Nat.pow 2 bits * 2 = _
  omega

theorem greatest_holds {base : Nat} (h : holds base = true) (bits : Nat) :
    holds (greatest holds base bits) = true := by
  induction bits generalizing base with
  | zero => exact h
  | succ bits ih =>
    unfold greatest
    split
    · rename_i h'
      exact ih h'
    · exact ih h

/-- When the number `2 ^ bits` above the base lacks the property, so does the one above the answer. -/
theorem greatest_succ_fails {base : Nat} (bits : Nat) (h : holds (base + Nat.pow 2 bits) = false) :
    holds (greatest holds base bits + 1) = false := by
  induction bits generalizing base with
  | zero => simpa [greatest] using h
  | succ bits ih =>
    unfold greatest
    split
    · apply ih
      rw [Nat.add_assoc, ← pow_two_succ]
      exact h
    · rename_i h'
      exact ih (by simpa using h')

/-- No number with the property exceeds the answer, if all numbers below one with the property have it. -/
theorem le_greatest_of_holds {base : Nat} (hdown : ∀ m n, m ≤ n → holds n = true → holds m = true) (bits : Nat)
    {n : Nat} (hn : holds n = true) (hlt : n < base + Nat.pow 2 bits) : n ≤ greatest holds base bits := by
  induction bits generalizing base with
  | zero => exact Nat.le_of_lt_succ hlt
  | succ bits ih =>
    rw [pow_two_succ] at hlt
    unfold greatest
    split
    · exact ih (by omega)
    · rename_i h
      refine ih (Nat.lt_of_not_le fun hle => h ?_)
      exact hdown _ n hle hn

end Entitlement.Numeral
