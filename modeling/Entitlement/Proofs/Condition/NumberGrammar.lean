import Entitlement.Proofs.Condition.ExactValues
import Entitlement.Proofs.Text.AsciiCase

/-!
# `Entitlement.Proofs.Condition.NumberGrammar` — which operands are numbers

An operand is a number when it is a decimal literal whose nearest double is finite, and an integer when it is a run of
digits, with a sign or without one, whose value has 128 bits. That is all that is read: what a reader of doubles takes
besides literals are words, and a look at the characters of an operand keeps these away from it
(`number?_eq_screened`). An integer is always a number as well, since no integer of 128 bits is too great for a double
(`isSome_number?_of_integer?`).
-/

namespace Entitlement.Condition

open Numeral

variable {s : List Char}

/-! ## Numbers -/

/-- A literal with the double that is nearest to it. -/
theorem number?_eq_some_iff {x : Binary64} :
    number? s = some x ↔ ∃ l : Literal, l.text = s ∧ x.negative = decide (l.sign = .minus) ∧
      Binary64.IsNearest x.magnitude |l.value| ∧ x.isFinite = true := by
  have hread (l : Literal) : (Decimal.ofLiteral l).toBinary64 = x ↔
      x.negative = decide (l.sign = .minus) ∧ Binary64.IsNearest x.magnitude |l.value| := by
    rw [← Decimal.value_ofLiteral, Decimal.abs_value]
    exact Decimal.toBinary64_eq_iff
  constructor
  · intro h
    obtain ⟨d, hd, hx⟩ := exists_decimal_of_number? h
    obtain ⟨l, rfl⟩ := Decimal.exists_literal_of_read? hd
    rw [Decimal.read?_text, Option.some.injEq] at hd
    obtain ⟨hnegative, hnearest⟩ := (hread l).mp (hd ▸ hx)
    exact ⟨l, rfl, hnegative, hnearest, isFinite_of_number? h⟩
  · rintro ⟨l, rfl, hnegative, hnearest, hfinite⟩
    rw [number?, Decimal.read?_text, Option.map_some, (hread l).mpr ⟨hnegative, hnearest⟩, Option.filter_some,
      if_pos hfinite]

/-- An operand is a number exactly when it is a literal whose nearest magnitude is finite. -/
theorem isSome_number?_iff :
    (number? s).isSome = true ↔ ∃ l : Literal, l.text = s ∧
      ∃ n < Binary64.infinityMagnitude, Binary64.IsNearest n |l.value| := by
  constructor
  · intro h
    obtain ⟨x, hx⟩ := Option.isSome_iff_exists.mp h
    obtain ⟨l, hl, -, hnearest, hfinite⟩ := number?_eq_some_iff.mp hx
    exact ⟨l, hl, x.magnitude, of_decide_eq_true hfinite, hnearest⟩
  · rintro ⟨l, hl, n, hn, hnearest⟩
    have hlt : n < 0x8000000000000000 := Nat.lt_trans hn (by decide)
    apply Option.isSome_iff_exists.mpr
    refine ⟨⟨decide (l.sign = .minus), n, hlt⟩, number?_eq_some_iff.mpr ⟨l, hl, rfl, hnearest, ?_⟩⟩
    exact decide_eq_true hn

/-! ## Integers -/

theorem integer?_eq_some_iff {i : Int} :
    integer? s = some i ↔ ∃ (σ : Sign) (ds : Digits), ds.chars ≠ [] ∧ s = σ.text ++ ds.chars ∧
      i = σ.apply (ds.value : Int) ∧ int128.least ≤ i ∧ i ≤ int128.greatest := by
  rw [integer?, signedWithin?_eq_some_iff, signed?_eq_some_iff]
  constructor
  · rintro ⟨⟨σ, ds, hne, hs, hi⟩, hrange⟩
    exact ⟨σ, ds, hne, hs, hi, hrange⟩
  · rintro ⟨σ, ds, hne, hs, hi, hrange⟩
    exact ⟨⟨σ, ds, hne, hs, hi⟩, hrange⟩

/-- An integer of 128 bits is not greater than the greatest finite double. -/
theorem abs_le_magnitudeValue {i : Int} (hleast : int128.least ≤ i) (hgreatest : i ≤ int128.greatest) :
    |(i : ℚ)| ≤ Binary64.magnitudeValue (Binary64.infinityMagnitude - 1) := by
  have hpower : 0x80000000000000000000000000000000 * Binary64.unitsPerOne ≤
      Binary64.units (Binary64.infinityMagnitude - 1) := by decide +kernel
  have habs : |i| ≤ 0x80000000000000000000000000000000 := by
    rw [abs_le]
    exact ⟨hleast, hgreatest.trans (by decide)⟩
  calc |(i : ℚ)| = ((|i| : Int) : ℚ) := (Int.cast_abs).symm
    _ ≤ ((0x80000000000000000000000000000000 : Nat) : ℚ) := by exact_mod_cast habs
    _ ≤ Binary64.magnitudeValue (Binary64.infinityMagnitude - 1) := by
        rw [Binary64.magnitudeValue, le_div_iff₀ Binary64.unitsPerOne_pos]
        exact_mod_cast hpower

/-- **Every integer is a number.** -/
theorem isSome_number?_of_integer? {i : Int} (h : integer? s = some i) : (number? s).isSome = true := by
  obtain ⟨-, hleast, hgreatest⟩ := signedWithin?_eq_some_iff.mp h
  obtain ⟨l, hl, hvalue⟩ := denotes_of_integer? h
  have hnearest := (Decimal.ofLiteral l).isNearest_toBinary64
  rw [← Decimal.abs_value, Decimal.value_ofLiteral] at hnearest
  have hgreat : Binary64.IsNearest (Binary64.infinityMagnitude - 1) _ :=
    Binary64.isNearest_magnitudeValue (Nat.sub_le _ _)
  have hle := hnearest.mono hgreat (hvalue ▸ abs_le_magnitudeValue hleast hgreatest)
  refine isSome_number?_iff.mpr ⟨l, hl, _, ?_, hnearest⟩
  exact Nat.lt_of_le_of_lt hle (by decide)

/-! ## Two stages -/

/-- A look at the characters behind the sign: there is a digit or the point in front, and nothing but characters of
    literals behind it. -/
def screened (s : List Char) : Bool :=
  ((splitSign s).2.head?.any fun c => c.isDigit || c == '.') && (splitSign s).2.all isLiteralChar

/-- The double that a word means behind a sign, in any ASCII letter case. -/
def wordDouble? (negative : Bool) (s : List Char) : Option Binary64 :=
  let word := s.map Char.toLower
  if word = "inf".toList ∨ word = "infinity".toList then some (.infinity negative)
  else if word = "nan".toList then some (.ofMagnitude negative 0x7FF8000000000000)
  else none

/-- A reader of doubles that takes words and literals. -/
def anyDouble? (s : List Char) : Option Binary64 :=
  (wordDouble? (splitSign s).1 (splitSign s).2).or ((Decimal.read? s).map Decimal.toBinary64)

theorem screened_text (l : Literal) : screened l.text = true := by
  rw [screened, l.splitSign_eq, Bool.and_eq_true]
  constructor
  · obtain ⟨c, rest, hbody, hc⟩ := l.exists_body_eq_cons
    rw [hbody]
    show (c.isDigit || c == '.') = true
    rw [Bool.or_eq_true, beq_iff_eq]
    exact hc
  · exact List.all_eq_true.mpr l.isLiteralChar_body

/-- Digits and the point are not letters. -/
theorem toLower_of_digit_or_point {c : Char} (h : c.isDigit = true ∨ c = '.') : c.toLower = c := by
  apply Text.toLower_of_not_isUpper
  rcases h with hdigit | rfl
  · obtain ⟨-, hhigh⟩ : 48 ≤ c.toNat ∧ c.toNat ≤ 57 := Char.isDigit_iff_toNat.mp hdigit
    have hnot : ¬ (65 ≤ c.toNat ∧ c.toNat ≤ 90) := by omega
    exact decide_eq_false hnot
  · decide

/-- What is screened is no word. -/
theorem wordDouble?_of_screened (negative : Bool) (h : screened s = true) :
    wordDouble? negative (splitSign s).2 = none := by
  rw [screened, Bool.and_eq_true] at h
  have hhead := h.1
  unfold wordDouble?
  cases hrest : (splitSign s).2 with
  | nil => rfl
  | cons c rest =>
    rw [hrest] at hhead
    have hc : c.isDigit = true ∨ c = '.' := by
      rw [← beq_iff_eq (a := c) (b := '.'), ← Bool.or_eq_true]
      exact hhead
    have hword (w : List Char) (hw : (w.head?.any fun c => c.isDigit || c == '.') = false) :
        (c :: rest).map Char.toLower ≠ w := by
      rintro rfl
      rw [List.map_cons, toLower_of_digit_or_point hc] at hw
      exact Bool.false_ne_true (hw.symm.trans hhead)
    dsimp only
    rw [if_neg (not_or.mpr ⟨hword "inf".toList (by decide), hword "infinity".toList (by decide)⟩),
      if_neg (hword "nan".toList (by decide))]

/-- **The screen keeps the words away.** A screened operand is read as by a reader that takes words as well. -/
theorem number?_eq_screened (s : List Char) :
    number? s = if screened s then (anyDouble? s).filter Binary64.isFinite else none := by
  by_cases h : screened s = true
  · rw [if_pos h, anyDouble?, wordDouble?_of_screened _ h, Option.none_or]
    rfl
  · rw [if_neg h]
    cases hd : Decimal.read? s with
    | none =>
      rw [number?, hd]
      rfl
    | some d =>
      obtain ⟨l, rfl⟩ := Decimal.exists_literal_of_read? hd
      exact absurd (screened_text l) h

/-- Without the screen a word is a double, if not a finite one. -/
example : anyDouble? "-Infinity".toList = some (.infinity true) ∧ screened "-Infinity".toList = false := by
  decide +kernel

/-- **The grammar of numbers.** An operand is a number exactly when it is a decimal literal whose nearest double is
    finite, and then it is that double, with the sign of the literal; it is an integer exactly when it is a sign that may
    be missing and digits whose value has 128 bits. Every integer is a number. A reader that takes words besides literals
    makes the same of the operands that are screened first. -/
theorem number_grammar (s : List Char) :
    ((number? s).isSome = true ↔ ∃ l : Literal, l.text = s ∧
      ∃ n < Binary64.infinityMagnitude, Binary64.IsNearest n |l.value|) ∧
    (∀ x, number? s = some x ↔ ∃ l : Literal, l.text = s ∧ x.negative = decide (l.sign = .minus) ∧
      Binary64.IsNearest x.magnitude |l.value| ∧ x.isFinite = true) ∧
    (∀ i, integer? s = some i ↔ ∃ (σ : Sign) (ds : Digits), ds.chars ≠ [] ∧ s = σ.text ++ ds.chars ∧
      i = σ.apply (ds.value : Int) ∧ int128.least ≤ i ∧ i ≤ int128.greatest) ∧
    ((integer? s).isSome = true → (number? s).isSome = true) ∧
    number? s = (if screened s then (anyDouble? s).filter Binary64.isFinite else none) := by
  refine ⟨isSome_number?_iff, fun x => number?_eq_some_iff, fun i => integer?_eq_some_iff, ?_, number?_eq_screened s⟩
  intro h
  obtain ⟨i, hi⟩ := Option.isSome_iff_exists.mp h
  exact isSome_number?_of_integer? hi

/-- The least integer of 128 bits, with a zero in front, is a number. -/
theorem number_grammar_least :
    (integer? "-0170141183460469231731687303715884105728".toList).isSome = true ∧
      (number? "-0170141183460469231731687303715884105728".toList).isSome = true := by
  obtain ⟨-, -, -, hinteger, -⟩ := number_grammar "-0170141183460469231731687303715884105728".toList
  have h : (integer? "-0170141183460469231731687303715884105728".toList).isSome = true := by decide +kernel
  exact ⟨h, hinteger h⟩

end Entitlement.Condition
