/-!
# `Entitlement.Numeral.Integer` — signed runs of decimal digits

## Contents
- **`digits?`**: the value of a non-empty run of ASCII digits.
- **`signed?`**: the same after at most one sign.
- **`decimalText`**: the digits of an integer, which `signed?` reads back.
- **Ranges**: `int64`, `int128`, and `signedWithin?`, which refuses a value outside a range.
- **`unsignedWithin`**: the reader for settings, which tells a wrong digit from a value that is too large.
-/

namespace Entitlement.Numeral

/-- The value of a non-empty run of ASCII digits. -/
def digits? (s : List Char) : Option Nat :=
  if s ≠ [] ∧ s.all Char.isDigit then some (Nat.ofDigitChars 10 s 0) else none

/-- The sign at the front of a text, and the rest: at most one `+` or `-` is taken off. -/
def splitSign : List Char → Bool × List Char
  | '+' :: rest => (false, rest)
  | '-' :: rest => (true, rest)
  | s => (false, s)

/-- The value of a non-empty run of ASCII digits behind at most one sign. -/
def signed? (s : List Char) : Option Int :=
  (digits? (splitSign s).2).map fun n => if (splitSign s).1 then -(n : Int) else n

/-- The decimal digits of an integer, behind a minus sign when it is negative. -/
def decimalText (i : Int) : List Char :=
  if i < 0 then '-' :: Nat.toDigits 10 i.natAbs else Nat.toDigits 10 i.natAbs

/-- An inclusive range of integers. -/
structure Range where
  least : Int
  greatest : Int

/-- Whether a range has a value. -/
def Range.holds (r : Range) (i : Int) : Bool := r.least ≤ i && i ≤ r.greatest

/-- The integer of the range that is nearest to an integer. -/
def Range.clamp (r : Range) (i : Int) : Int := max r.least (min i r.greatest)

/-- The integers of 64 bits. -/
def int64 : Range := ⟨-0x8000000000000000, 0x7FFFFFFFFFFFFFFF⟩

/-- The integers of 128 bits. -/
def int128 : Range := ⟨-0x80000000000000000000000000000000, 0x7FFFFFFFFFFFFFFFFFFFFFFFFFFFFFFF⟩

/-- The value of a signed run of digits, if a range has it. -/
def signedWithin? (r : Range) (s : List Char) : Option Int := (signed? s).filter r.holds

theorem digits?_eq_some_iff {s : List Char} {n : Nat} :
    digits? s = some n ↔ s ≠ [] ∧ (∀ c ∈ s, c.isDigit = true) ∧ Nat.ofDigitChars 10 s 0 = n := by
  unfold digits?
  split
  · rename_i h
    simp only [List.all_eq_true] at h
    simp only [Option.some.injEq]
    exact ⟨fun e => ⟨h.1, h.2, e⟩, fun e => e.2.2⟩
  · rename_i h
    simp only [List.all_eq_true, not_and] at h
    simp only [reduceCtorEq, false_iff, not_and]
    exact fun h₁ h₂ => absurd h₂ (h h₁)

/-- Every natural number is read back from its decimal digits. -/
@[simp] theorem digits?_toDigits (n : Nat) : digits? (Nat.toDigits 10 n) = some n := by
  refine digits?_eq_some_iff.mpr ⟨Nat.toDigits_ne_nil, fun c hc => ?_, Nat.ofDigitChars_ten_toDigits⟩
  exact Nat.isDigit_of_mem_toDigits (by decide) (by decide) hc

theorem splitSign_of_isDigit {c : Char} {s : List Char} (h : c.isDigit = true) :
    splitSign (c :: s) = (false, c :: s) := by
  unfold splitSign
  split
  · rename_i e
    rw [List.cons.injEq] at e
    rw [e.1] at h
    exact absurd h (by decide)
  · rename_i e
    rw [List.cons.injEq] at e
    rw [e.1] at h
    exact absurd h (by decide)
  · rfl

/-- Every integer is read back from its text. -/
@[simp] theorem signed?_decimalText (i : Int) : signed? (decimalText i) = some i := by
  unfold decimalText
  split
  · rename_i h
    have e : signed? ('-' :: Nat.toDigits 10 i.natAbs) = some (-(i.natAbs : Int)) := by
      simp [signed?, splitSign]
    rw [e, Option.some.injEq]
    omega
  · rename_i h
    obtain ⟨c, cs, e⟩ := List.exists_cons_of_ne_nil (Nat.toDigits_ne_nil (n := i.natAbs) (b := 10))
    have hc : c.isDigit = true :=
      Nat.isDigit_of_mem_toDigits (by decide) (by decide) (e ▸ List.mem_cons_self)
    have hd : digits? (c :: cs) = some i.natAbs := e ▸ digits?_toDigits i.natAbs
    have e' : signed? (c :: cs) = some (i.natAbs : Int) := by
      simp [signed?, splitSign_of_isDigit hc, hd]
    rw [e, e', Option.some.injEq]
    omega

theorem signedWithin?_eq_some_iff {r : Range} {s : List Char} {i : Int} :
    signedWithin? r s = some i ↔ signed? s = some i ∧ r.least ≤ i ∧ i ≤ r.greatest := by
  simp [signedWithin?, Option.filter_eq_some_iff, Range.holds]

/-! ## Unsigned settings -/

/-- Why a text is not an unsigned number of a given width. -/
inductive UnsignedFault where
  | invalidDigit
  | tooLarge
  deriving DecidableEq

/-- The wording of the fault. -/
def UnsignedFault.message : UnsignedFault → String
  | .invalidDigit => "invalid digit found in string"
  | .tooLarge => "number too large to fit in target type"

/-- Reads digits from the left on top of a value and stops at the first fault. A character that is no
    digit is reported before the value it would have overflowed. -/
def unsignedFrom (limit : Nat) (value : Nat) : List Char → Except UnsignedFault Nat
  | [] => .ok value
  | c :: rest =>
    if c.isDigit then
      let next := value * 10 + (c.toNat - '0'.toNat)
      if next ≤ limit then unsignedFrom limit next rest else .error .tooLarge
    else .error .invalidDigit

/-- The value of an optional `+` and at least one digit, up to a limit. -/
def unsignedWithin (limit : Nat) (s : List Char) : Except UnsignedFault Nat :=
  match s with
  | [] | ['+'] => .error .invalidDigit
  | '+' :: rest => unsignedFrom limit 0 rest
  | s => unsignedFrom limit 0 s

/-- The greatest number of 32 bits. -/
def unsigned32 : Nat := 0xFFFFFFFF

/-- The greatest number of 64 bits. -/
def unsigned64 : Nat := 0xFFFFFFFFFFFFFFFF

end Entitlement.Numeral
