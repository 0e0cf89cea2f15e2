import Entitlement.Condition.Operator
import Entitlement.Condition.Substitution
import Entitlement.Proofs.Collection.Elements

/-!
# `Entitlement.Proofs.Attribute.ValueText` — the characters in the texts of values

Numbers are written with digits, signs, the point and a few capital letters, none of which is an operator
character or spacing. Of all values, only a text can therefore bring operators or spacing into a condition
(`text_cases`).
-/

namespace Entitlement.Attribute

open Condition (isOperatorChar isSpacing)
open Numeral

/-- Whether a number may be written with the character. -/
def isNumberChar (c : Char) : Bool := c.isDigit || ['-', '+', '.', 'E', 'N', 'A', 'I', 'F'].contains c

theorem isNumberChar_of_isDigit {c : Char} (h : c.isDigit = true) : isNumberChar c = true := by
  rw [isNumberChar, h, Bool.true_or]

theorem isOperatorChar_of_isNumberChar {c : Char} (h : isNumberChar c = true) : isOperatorChar c = false := by
  rw [Bool.eq_false_iff]
  intro hc
  have hall : ∀ x ∈ Condition.alphabet, isNumberChar x = false := forall_mem_of_all (by decide)
  rw [hall c (by simpa [isOperatorChar] using hc)] at h
  exact absurd h (by decide)

theorem isSpacing_of_isNumberChar {c : Char} (h : isNumberChar c = true) : isSpacing c = false :=
  Condition.isSpacing_of_class (by decide) h

/-! ## Whole numbers -/

theorem isNumberChar_toDigits {n : Nat} : ∀ c ∈ Nat.toDigits 10 n, isNumberChar c = true :=
  fun _ hc => isNumberChar_of_isDigit (Nat.isDigit_of_mem_toDigits (by decide) (by decide) hc)

theorem isNumberChar_decimalText {i : Int} : ∀ c ∈ decimalText i, isNumberChar c = true := by
  rw [decimalText]
  split
  · exact List.forall_mem_cons.mpr ⟨by decide, isNumberChar_toDigits⟩
  · exact isNumberChar_toDigits

/-! ## Doubles -/

section Layouts

variable {ds : List Char} {exponent : Int}

theorem isNumberChar_dropTrailingZeros (h : ∀ c ∈ ds, isNumberChar c = true) :
    ∀ c ∈ dropTrailingZeros ds, isNumberChar c = true := by
  intro c hc
  rw [dropTrailingZeros, List.mem_reverse] at hc
  exact h c (List.mem_reverse.mp ((List.dropWhile_suffix _).subset hc))

theorem isNumberChar_scientific (h : ∀ c ∈ ds, isNumberChar c = true) :
    ∀ c ∈ scientific ds exponent, isNumberChar c = true := by
  have htake : ∀ c ∈ ds.take 1, isNumberChar c = true := fun c hc => h c (List.mem_of_mem_take hc)
  have hdrop : ∀ c ∈ ds.drop 1, isNumberChar c = true := fun c hc => h c (List.mem_of_mem_drop hc)
  have hfraction : ∀ c ∈ (if ds.drop 1 = [] then ['0'] else ds.drop 1), isNumberChar c = true := by
    split
    · exact List.all_eq_true.mp (by decide)
    · exact hdrop
  have hsign : isNumberChar (if exponent < 0 then '-' else '+') = true := by
    split <;> decide
  rw [scientific, List.forall_mem_append, List.forall_mem_append, List.forall_mem_cons,
    List.forall_mem_cons, List.forall_mem_cons]
  exact ⟨⟨htake, by decide, hfraction⟩, by decide, hsign, isNumberChar_toDigits⟩

theorem isNumberChar_positional (h : ∀ c ∈ ds, isNumberChar c = true) :
    ∀ c ∈ positional ds exponent, isNumberChar c = true := by
  have hzeros (n : Nat) : ∀ c ∈ List.replicate n '0', isNumberChar c = true := by
    intro c hc
    rw [List.eq_of_mem_replicate hc]
    decide
  rw [positional]
  split
  · rw [List.forall_mem_append, List.forall_mem_cons, List.forall_mem_cons]
    exact ⟨⟨by decide, by decide, hzeros _⟩, h⟩
  · dsimp only
    split
    · exact List.forall_mem_append.mpr ⟨h, hzeros _⟩
    · rw [List.forall_mem_append, List.forall_mem_cons]
      exact ⟨fun c hc => h c (List.mem_of_mem_take hc), by decide,
        fun c hc => h c (List.mem_of_mem_drop hc)⟩

end Layouts

theorem isNumberChar_floatText {x : Binary64} : ∀ c ∈ floatText x, isNumberChar c = true := by
  have hdigits (n : Nat) := isNumberChar_dropTrailingZeros (isNumberChar_toDigits (n := n))
  have hmagnitude (n : Nat) : ∀ c ∈ magnitudeText n, isNumberChar c = true := by
    rw [magnitudeText]
    split
    · exact isNumberChar_scientific (hdigits _)
    · exact isNumberChar_positional (hdigits _)
  rw [floatText]
  split
  · exact List.all_eq_true.mp (by decide)
  · rw [List.forall_mem_append]
    constructor
    · split <;> exact List.all_eq_true.mp (by decide)
    · split
      · exact List.all_eq_true.mp (by decide)
      · split
        · exact List.all_eq_true.mp (by decide)
        · exact hmagnitude _

theorem isOperatorChar_floatText {x : Binary64} : ∀ c ∈ floatText x, isOperatorChar c = false :=
  fun c hc => isOperatorChar_of_isNumberChar (isNumberChar_floatText c hc)

/-! ## Values -/

/-- Every value but a text is written with the characters of numbers. -/
theorem isNumberChar_text {v : Value} (h : ∀ s, v ≠ .string s) : ∀ c ∈ v.text, isNumberChar c = true := by
  cases v with
  | null => exact fun c hc => absurd hc List.not_mem_nil
  | boolean b => cases b <;> exact List.all_eq_true.mp (by decide)
  | integer i => exact isNumberChar_decimalText
  | float x => exact isNumberChar_floatText
  | string s => exact absurd rfl (h s)

/-- **Only texts are written with other characters.** A property that these characters give needs a proof for
    texts only. -/
theorem text_cases {v : Value} {P : List Char → Prop}
    (hnumber : ∀ ds : List Char, (∀ c ∈ ds, isNumberChar c = true) → P ds)
    (hstring : ∀ s, v = .string s → P s.toList) : P v.text := by
  by_cases h : ∃ s, v = .string s
  · obtain ⟨s, rfl⟩ := h
    exact hstring s rfl
  · exact hnumber v.text (isNumberChar_text fun s hs => h ⟨s, hs⟩)

end Entitlement.Attribute
