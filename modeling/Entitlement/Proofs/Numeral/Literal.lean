import Entitlement.Numeral.Decimal
import Mathlib.Algebra.Order.Field.Power
import Mathlib.Data.Rat.Cast.Order
import Mathlib.Tactic.FieldSimp
import Mathlib.Tactic.Positivity
import Mathlib.Tactic.Ring

/-!
# `Entitlement.Proofs.Numeral.Literal` — decimal literals and their exact values

A literal is a sign that may be missing, digits, a point with digits behind it that may be missing, and a power of ten
that may be missing; there is a digit in front of the point or behind it. Its text and its exact value are read off
these parts (`Literal`). The reader accepts exactly the texts of literals and gives them their exact value
(`read?_text`, `exists_literal_of_read?`), so that a text denotes at most one value (`denotes_iff`). Of the signed runs
of digits among them the same is said in integers (`signed?_eq_some_iff`).
-/

namespace Entitlement.Numeral

/-- The sign in front of a number. -/
inductive Sign where
  | unwritten
  | plus
  | minus
  deriving DecidableEq

namespace Sign

/-- How a sign is written. -/
def text : Sign → List Char
  | .unwritten => []
  | .plus => ['+']
  | .minus => ['-']

/-- A number with the sign in front of it. -/
def apply {R : Type} [Neg R] (σ : Sign) (x : R) : R := if σ = .minus then -x else x

end Sign

/-- A run of ASCII digits. -/
structure Digits where
  chars : List Char
  isDigit_of_mem : ∀ c ∈ chars, c.isDigit = true

/-- The number that the digits write. -/
def Digits.value (ds : Digits) : Nat := Nat.ofDigitChars 10 ds.chars 0

/-- A power of ten, as it is written behind the digits. -/
structure Power where
  marker : Char
  marker_eq : marker = 'e' ∨ marker = 'E'
  sign : Sign
  digits : Digits
  ne_nil : digits.chars ≠ []

/-- A decimal literal. -/
structure Literal where
  sign : Sign
  whole : Digits
  /-- The digits behind the point, if there is one. -/
  fraction : Option Digits
  power : Option Power
  some_digit : whole.chars ≠ [] ∨ ∃ ds ∈ fraction, ds.chars ≠ []

namespace Literal

/-- How a fraction is written. -/
def fractionText : Option Digits → List Char
  | none => []
  | some ds => '.' :: ds.chars

/-- How a power of ten is written. -/
def powerText : Option Power → List Char
  | none => []
  | some p => p.marker :: (p.sign.text ++ p.digits.chars)

/-- How a literal is written. -/
def text (l : Literal) : List Char :=
  l.sign.text ++ (l.whole.chars ++ (fractionText l.fraction ++ powerText l.power))

/-- The value of a fraction. -/
def fractionValue : Option Digits → ℚ
  | none => 0
  | some ds => ds.value / 10 ^ ds.chars.length

/-- The exponent of a power of ten. -/
def exponent : Option Power → Int
  | none => 0
  | some p => p.sign.apply (p.digits.value : Int)

/-- The exact value of a literal. -/
def value (l : Literal) : ℚ :=
  l.sign.apply ((l.whole.value + fractionValue l.fraction) * 10 ^ exponent l.power)

end Literal

/-- The text is a literal with the exact value. -/
def Denotes (s : List Char) (q : ℚ) : Prop := ∃ l : Literal, l.text = s ∧ l.value = q

/-! ## Signed runs of digits -/

/-- A text does not begin with a sign. -/
def Unsigned (s : List Char) : Prop := ∀ c ∈ s.head?, c ≠ '+' ∧ c ≠ '-'

theorem splitSign_of_unsigned {s : List Char} (h : Unsigned s) : splitSign s = (false, s) := by
  unfold splitSign
  split
  · exact absurd rfl (h '+' rfl).1
  · exact absurd rfl (h '-' rfl).2
  · rfl

theorem splitSign_text (σ : Sign) {s : List Char} (h : Unsigned s) :
    splitSign (σ.text ++ s) = (decide (σ = .minus), s) := by
  cases σ with
  | unwritten => exact splitSign_of_unsigned h
  | plus => rfl
  | minus => rfl

/-- Every text is a sign and what follows it. -/
theorem exists_sign (s : List Char) :
    ∃ σ : Sign, s = σ.text ++ (splitSign s).2 ∧ (splitSign s).1 = decide (σ = .minus) := by
  unfold splitSign
  split
  · exact ⟨.plus, rfl, rfl⟩
  · exact ⟨.minus, rfl, rfl⟩
  · exact ⟨.unwritten, rfl, rfl⟩

theorem Digits.unsigned_append (ds : Digits) {s : List Char} (h : ds.chars = [] → Unsigned s) :
    Unsigned (ds.chars ++ s) := by
  intro c hc
  cases hds : ds.chars with
  | nil =>
    rw [hds] at hc
    exact h hds c hc
  | cons c' rest =>
    rw [hds] at hc
    obtain rfl : c' = c := Option.some.inj hc
    have hdigit := ds.isDigit_of_mem c' (hds ▸ List.mem_cons_self)
    constructor
    · rintro rfl
      exact absurd hdigit (by decide)
    · rintro rfl
      exact absurd hdigit (by decide)

/-- What is behind the sign of a literal does not begin with another one. -/
theorem Literal.splitSign_eq (l : Literal) :
    splitSign l.text = (decide (l.sign = .minus), l.whole.chars ++ (fractionText l.fraction ++ powerText l.power)) := by
  apply splitSign_text l.sign
  apply l.whole.unsigned_append
  intro hwhole
  obtain ⟨ds, hds, -⟩ := l.some_digit.resolve_left fun h => h hwhole
  rw [Option.mem_def.mp hds]
  intro c hc
  obtain rfl : '.' = c := Option.some.inj hc
  decide

theorem signed?_of_digits? {s : List Char} {σ : Sign} {n : Nat} (hσ : (splitSign s).1 = decide (σ = .minus))
    (hn : digits? (splitSign s).2 = some n) : signed? s = some (σ.apply (n : Int)) := by
  rw [signed?, hσ, hn, Sign.apply]
  simp only [decide_eq_true_eq]
  rfl

/-- **Signed runs of digits** are the texts that are read as integers. -/
theorem signed?_eq_some_iff {s : List Char} {i : Int} :
    signed? s = some i ↔
      ∃ (σ : Sign) (ds : Digits), ds.chars ≠ [] ∧ s = σ.text ++ ds.chars ∧ i = σ.apply (ds.value : Int) := by
  constructor
  · intro h
    obtain ⟨σ, hs, hσ⟩ := exists_sign s
    cases hn : digits? (splitSign s).2 with
    | none =>
      rw [signed?, hn] at h
      cases h
    | some n =>
      obtain ⟨hne, hdigits, hvalue⟩ := digits?_eq_some_iff.mp hn
      rw [signed?_of_digits? hσ hn, Option.some.injEq] at h
      refine ⟨σ, ⟨(splitSign s).2, hdigits⟩, hne, hs, ?_⟩
      rw [Digits.value, hvalue, h]
  · rintro ⟨σ, ds, hne, rfl, rfl⟩
    have hunsigned : Unsigned ds.chars := by
      have h := ds.unsigned_append (s := []) fun h => absurd h hne
      rwa [List.append_nil] at h
    have hdigits : digits? ds.chars = some ds.value :=
      digits?_eq_some_iff.mpr ⟨hne, ds.isDigit_of_mem, rfl⟩
    have hsplit := splitSign_text σ hunsigned
    exact signed?_of_digits? (congrArg Prod.fst hsplit) (hsplit ▸ hdigits)

/-! ## The characters of a literal -/

/-- Digits, the point, the letters in front of a power of ten, and the signs. -/
def isLiteralChar (c : Char) : Bool := c.isDigit || ['.', 'e', 'E', '+', '-'].contains c

theorem Sign.isLiteralChar_text (σ : Sign) : ∀ c ∈ σ.text, isLiteralChar c = true := by
  apply List.all_eq_true.mp
  cases σ <;> decide

theorem Digits.isLiteralChar_chars (ds : Digits) : ∀ c ∈ ds.chars, isLiteralChar c = true := by
  intro c hc
  rw [isLiteralChar, ds.isDigit_of_mem c hc]
  rfl

namespace Literal

theorem isLiteralChar_fractionText (f : Option Digits) : ∀ c ∈ fractionText f, isLiteralChar c = true := by
  cases f with
  | none => exact fun c hc => absurd hc List.not_mem_nil
  | some ds => exact List.forall_mem_cons.mpr ⟨by decide, ds.isLiteralChar_chars⟩

theorem isLiteralChar_powerText (p : Option Power) : ∀ c ∈ powerText p, isLiteralChar c = true := by
  cases p with
  | none => exact fun c hc => absurd hc List.not_mem_nil
  | some p =>
    refine List.forall_mem_cons.mpr ⟨?_, ?_⟩
    · rcases p.marker_eq with h | h <;> rw [h] <;> decide
    · exact List.forall_mem_append.mpr ⟨p.sign.isLiteralChar_text, p.digits.isLiteralChar_chars⟩

theorem isLiteralChar_body (l : Literal) :
    ∀ c ∈ l.whole.chars ++ (fractionText l.fraction ++ powerText l.power), isLiteralChar c = true := by
  rw [List.forall_mem_append, List.forall_mem_append]
  exact ⟨l.whole.isLiteralChar_chars, isLiteralChar_fractionText _, isLiteralChar_powerText _⟩

/-- A literal has no other characters. -/
theorem isLiteralChar_text (l : Literal) : ∀ c ∈ l.text, isLiteralChar c = true := by
  rw [text, List.forall_mem_append]
  exact ⟨l.sign.isLiteralChar_text, l.isLiteralChar_body⟩

/-- Behind the sign comes a digit or the point. -/
theorem exists_body_eq_cons (l : Literal) :
    ∃ c rest, l.whole.chars ++ (fractionText l.fraction ++ powerText l.power) = c :: rest ∧
      (c.isDigit = true ∨ c = '.') := by
  cases hwhole : l.whole.chars with
  | nil =>
    obtain ⟨ds, hds, -⟩ := l.some_digit.resolve_left fun h => h hwhole
    rw [Option.mem_def.mp hds]
    exact ⟨'.', _, rfl, .inr rfl⟩
  | cons c rest => exact ⟨c, _, rfl, .inl (l.whole.isDigit_of_mem c (hwhole ▸ List.mem_cons_self))⟩

end Literal

/-! ## Reading a literal -/

namespace Decimal

/-- The exact absolute value. -/
def absValue (d : Decimal) : ℚ := d.coefficient * 10 ^ d.exponent

/-- The exact value. -/
def value (d : Decimal) : ℚ := if d.negative then -d.absValue else d.absValue

theorem absValue_nonneg (d : Decimal) : 0 ≤ d.absValue := by
  unfold absValue
  positivity

theorem abs_value (d : Decimal) : |d.value| = d.absValue := by
  unfold value
  split
  · rw [abs_neg, abs_of_nonneg d.absValue_nonneg]
  · exact abs_of_nonneg d.absValue_nonneg

/-- The value of a literal as it is read: all digits as one number, and the exponent that makes up for those behind the
    point. -/
def ofLiteral (l : Literal) : Decimal :=
  let fraction := (l.fraction.map Digits.chars).getD []
  ⟨decide (l.sign = .minus), Nat.ofDigitChars 10 (l.whole.chars ++ fraction) 0,
    Literal.exponent l.power - fraction.length⟩

theorem value_ofLiteral (l : Literal) : (ofLiteral l).value = l.value := by
  have hvalue : (ofLiteral l).absValue =
      (l.whole.value + Literal.fractionValue l.fraction) * 10 ^ Literal.exponent l.power := by
    unfold absValue ofLiteral
    dsimp only
    cases l.fraction with
    | none =>
      rw [Option.map_none, Option.getD_none, List.append_nil, List.length_nil, Nat.cast_zero, Int.sub_zero,
        Literal.fractionValue, add_zero, Digits.value]
    | some ds =>
      rw [Option.map_some, Option.getD_some, Nat.ofDigitChars_append, Nat.ofDigitChars_eq_ofDigitChars_zero,
        zpow_sub₀ (by norm_num), zpow_natCast, Literal.fractionValue, Digits.value, Digits.value]
      push_cast
      field_simp
  unfold value Literal.value
  rw [hvalue]
  unfold ofLiteral Sign.apply
  simp only [decide_eq_true_eq]

/-- The digits in front of what does not begin with a digit. -/
theorem takeWhile_isDigit (ds : Digits) {s : List Char} (h : ∀ c ∈ s.head?, c.isDigit = false) :
    (ds.chars ++ s).takeWhile Char.isDigit = ds.chars ∧ (ds.chars ++ s).dropWhile Char.isDigit = s := by
  rw [List.takeWhile_append_of_pos ds.isDigit_of_mem, List.dropWhile_append_of_pos ds.isDigit_of_mem]
  cases s with
  | nil => exact ⟨List.append_nil _, rfl⟩
  | cons c rest =>
    have hc : c.isDigit = false := h c rfl
    rw [List.takeWhile_cons_of_neg (by rw [hc]; decide), List.dropWhile_cons_of_neg (by rw [hc]; decide)]
    exact ⟨List.append_nil _, rfl⟩

theorem head?_powerText (p : Option Power) : ∀ c ∈ (Literal.powerText p).head?, c.isDigit = false ∧ c ≠ '.' := by
  intro c hc
  cases p with
  | none => cases hc
  | some p =>
    obtain rfl : p.marker = c := Option.some.inj hc
    rcases p.marker_eq with h | h <;> rw [h] <;> decide

theorem exponent?_powerText (p : Option Power) : exponent? (Literal.powerText p) = some (Literal.exponent p) := by
  cases p with
  | none => rfl
  | some p =>
    have hsigned : signed? (p.sign.text ++ p.digits.chars) = some (p.sign.apply (p.digits.value : Int)) :=
      signed?_eq_some_iff.mpr ⟨p.sign, p.digits, p.ne_nil, rfl, rfl⟩
    rw [Literal.powerText, exponent?, if_pos p.marker_eq, hsigned]
    rfl

theorem exists_power {s : List Char} {e : Int} (h : exponent? s = some e) :
    ∃ p : Option Power, Literal.powerText p = s ∧ Literal.exponent p = e := by
  cases s with
  | nil => exact ⟨none, rfl, Option.some.inj h⟩
  | cons c rest =>
    rw [exponent?] at h
    split at h
    · rename_i hc
      obtain ⟨σ, ds, hne, rfl, rfl⟩ := signed?_eq_some_iff.mp h
      exact ⟨some ⟨c, hc, σ, ds, hne⟩, rfl, rfl⟩
    · cases h

/-- What follows a sign is read part by part. -/
theorem unsigned?_text (negative : Bool) (l : Literal) :
    unsigned? negative (l.whole.chars ++ (Literal.fractionText l.fraction ++ Literal.powerText l.power)) =
      some { ofLiteral l with negative := negative } := by
  have hpower (c : Char) (hc : c ∈ (Literal.powerText l.power).head?) := head?_powerText l.power c hc
  unfold unsigned? ofLiteral
  dsimp only
  cases hf : l.fraction with
  | none =>
    have hwhole : l.whole.chars ≠ [] := by
      rcases l.some_digit with h | ⟨ds, hds, -⟩
      · exact h
      · rw [hf] at hds
        cases hds
    obtain ⟨htake, hdrop⟩ := takeWhile_isDigit l.whole fun c hc => (hpower c hc).1
    rw [Literal.fractionText, List.nil_append, htake, hdrop]
    split
    · rename_i r hr
      exact absurd rfl (hpower '.' (hr ▸ rfl)).2
    · dsimp only
      rw [if_neg fun h => hwhole h.1, exponent?_powerText, Option.map_none, Option.getD_none]
      rfl
  | some ds =>
    have hdigit : ¬ (l.whole.chars = [] ∧ ds.chars = []) := by
      rintro ⟨hwhole, hds⟩
      rcases l.some_digit with h | ⟨ds', hds', h⟩
      · exact h hwhole
      · rw [hf] at hds'
        obtain rfl : ds = ds' := Option.some.inj hds'
        exact h hds
    obtain ⟨htake, hdrop⟩ := takeWhile_isDigit l.whole
      (s := '.' :: (ds.chars ++ Literal.powerText l.power)) fun c hc => Option.some.inj hc ▸ rfl
    obtain ⟨htake', hdrop'⟩ := takeWhile_isDigit ds fun c hc => (hpower c hc).1
    rw [Literal.fractionText, List.cons_append, htake, hdrop]
    simp only [htake', hdrop']
    rw [if_neg hdigit, exponent?_powerText]
    rfl

/-- **Every literal is read**, and with its value. -/
theorem read?_text (l : Literal) : read? l.text = some (ofLiteral l) := by
  rw [read?, l.splitSign_eq]
  exact unsigned?_text _ l

/-- What is read without a sign is written in parts. -/
theorem exists_parts {negative : Bool} {s : List Char} {d : Decimal} (h : unsigned? negative s = some d) :
    ∃ (whole : Digits) (fraction : Option Digits) (power : Option Power),
      s = whole.chars ++ (Literal.fractionText fraction ++ Literal.powerText power) ∧
      (whole.chars ≠ [] ∨ ∃ ds ∈ fraction, ds.chars ≠ []) := by
  have hdigits (s : List Char) : ∀ c ∈ s.takeWhile Char.isDigit, c.isDigit = true :=
    List.all_eq_true.mp List.all_takeWhile
  have hsplit := List.takeWhile_append_dropWhile (p := Char.isDigit) (l := s)
  unfold unsigned? at h
  dsimp only at h
  split at h
  · rename_i r hr
    dsimp only at h
    split at h
    · cases h
    · rename_i hne
      obtain ⟨e, he, -⟩ := Option.map_eq_some_iff.mp h
      obtain ⟨power, hpower, -⟩ := exists_power he
      refine ⟨⟨s.takeWhile Char.isDigit, hdigits s⟩, some ⟨r.takeWhile Char.isDigit, hdigits r⟩, power, ?_, ?_⟩
      · rw [hpower, Literal.fractionText, List.cons_append, List.takeWhile_append_dropWhile, ← hr, hsplit]
      · by_cases hwhole : s.takeWhile Char.isDigit = []
        · exact .inr ⟨_, rfl, fun hfraction => hne ⟨hwhole, hfraction⟩⟩
        · exact .inl hwhole
  · dsimp only at h
    split at h
    · cases h
    · rename_i hne
      obtain ⟨e, he, -⟩ := Option.map_eq_some_iff.mp h
      obtain ⟨power, hpower, -⟩ := exists_power he
      refine ⟨⟨s.takeWhile Char.isDigit, hdigits s⟩, none, power, ?_, .inl fun hwhole => hne ⟨hwhole, rfl⟩⟩
      rw [hpower, Literal.fractionText, List.nil_append, hsplit]

/-- **Only literals are read.** -/
theorem exists_literal_of_read? {s : List Char} {d : Decimal} (h : read? s = some d) : ∃ l : Literal, l.text = s := by
  obtain ⟨σ, hs, -⟩ := exists_sign s
  obtain ⟨whole, fraction, power, hparts, hdigit⟩ := exists_parts h
  refine ⟨⟨σ, whole, fraction, power, hdigit⟩, ?_⟩
  rw [Literal.text, ← hparts, ← hs]

end Decimal

theorem denotes_iff {s : List Char} {q : ℚ} : Denotes s q ↔ ∃ d, Decimal.read? s = some d ∧ d.value = q := by
  constructor
  · rintro ⟨l, rfl, rfl⟩
    exact ⟨_, Decimal.read?_text l, Decimal.value_ofLiteral l⟩
  · rintro ⟨d, hd, rfl⟩
    obtain ⟨l, rfl⟩ := Decimal.exists_literal_of_read? hd
    rw [Decimal.read?_text, Option.some.injEq] at hd
    exact ⟨l, rfl, by rw [← hd, Decimal.value_ofLiteral]⟩

theorem Denotes.unique {s : List Char} {p q : ℚ} (hp : Denotes s p) (hq : Denotes s q) : p = q := by
  obtain ⟨d, hd, rfl⟩ := denotes_iff.mp hp
  obtain ⟨d', hd', rfl⟩ := denotes_iff.mp hq
  rw [hd, Option.some.injEq] at hd'
  rw [hd']

/-- A signed run of digits denotes its integer. -/
theorem denotes_of_signed? {s : List Char} {i : Int} (h : signed? s = some i) : Denotes s i := by
  obtain ⟨σ, ds, hne, rfl, rfl⟩ := signed?_eq_some_iff.mp h
  refine ⟨⟨σ, ds, none, none, .inl hne⟩, ?_, ?_⟩
  · rw [Literal.text, Literal.fractionText, Literal.powerText, List.append_nil, List.append_nil]
  · rw [Literal.value, Literal.fractionValue, Literal.exponent, add_zero, zpow_zero, mul_one, Sign.apply, Sign.apply]
    split
    · push_cast
      rfl
    · push_cast
      rfl

end Entitlement.Numeral
