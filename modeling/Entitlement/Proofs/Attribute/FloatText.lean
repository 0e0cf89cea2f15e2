import Entitlement.Proofs.Attribute.ValueText
import Entitlement.Proofs.Numeral.SignificantDigits
import Entitlement.Proofs.Text.Trimming

/-!
# `Entitlement.Proofs.Attribute.FloatText` — the text of a double is its rounded value, exactly

The text of a finite double other than zero is a decimal literal. Its exact value is the double rounded to fourteen
significant digits: no layout moves the point (`float_text`). Each layout is treated for any digits that do not end in a
zero and any exponent (`exists_scientific`, `exists_positional`); what the digits of the rounded double add is only that
there is one that is not zero, which is also why no step that splits them fails (`magnitudeText?_eq`).
-/

namespace Entitlement.Attribute

open Condition (isOperatorChar)
open Numeral Text

/-! ## Digits without the zeros at their end -/

/-- There are digits, and the last of them is not a zero. -/
structure Trimmed (ds : List Char) : Prop where
  isDigit_of_mem : ∀ c ∈ ds, c.isDigit = true
  ne_nil : ds ≠ []
  last_ne_zero : ∀ c ∈ ds.getLast?, c ≠ '0'

/-- What is dropped are zeros. -/
theorem exists_dropTrailingZeros (ds : List Char) : ∃ k, ds = dropTrailingZeros ds ++ List.replicate k '0' := by
  have hzeros : ∀ c ∈ ds.reverse.takeWhile (· = '0'), c = '0' := by
    intro c hc
    exact of_decide_eq_true (List.all_eq_true.mp List.all_takeWhile c hc)
  have hsplit := List.takeWhile_append_dropWhile (p := (· = '0')) (l := ds.reverse)
  rw [List.eq_replicate_of_mem hzeros] at hsplit
  refine ⟨(ds.reverse.takeWhile (· = '0')).length, ?_⟩
  rw [dropTrailingZeros, ← List.reverse_replicate, ← List.reverse_append, hsplit, List.reverse_reverse]

theorem getLast?_dropTrailingZeros (ds : List Char) : ∀ c ∈ (dropTrailingZeros ds).getLast?, c ≠ '0' := by
  intro c hc
  rw [dropTrailingZeros, List.getLast?_reverse] at hc
  exact of_decide_eq_false (head?_dropWhile c hc)

/-- Zeros behind a number move the point. -/
theorem ofDigitChars_append_zeros (ds : List Char) (k : Nat) (j : Int) :
    (Nat.ofDigitChars 10 (ds ++ List.replicate k '0') 0 : ℚ) * 10 ^ (j - k) = Nat.ofDigitChars 10 ds 0 * 10 ^ j := by
  rw [Nat.ofDigitChars_append, Nat.ofDigitChars_replicate_zero, zpow_sub₀ (by norm_num), zpow_natCast]
  push_cast
  field_simp

/-- Zeros in front of a number say nothing. -/
theorem ofDigitChars_zeros_append (ds : List Char) (k : Nat) :
    Nat.ofDigitChars 10 (List.replicate k '0' ++ ds) 0 = Nat.ofDigitChars 10 ds 0 := by
  rw [Nat.ofDigitChars_append, Nat.ofDigitChars_replicate_zero, Nat.mul_zero]

theorem trimmed_dropTrailingZeros {c : Nat} (hc : 0 < c) : Trimmed (dropTrailingZeros (Nat.toDigits 10 c)) := by
  obtain ⟨k, hk⟩ := exists_dropTrailingZeros (Nat.toDigits 10 c)
  constructor
  · intro x hx
    apply Nat.isDigit_of_mem_toDigits (b := 10) (by decide) (by decide)
    rw [hk]
    exact List.mem_append_left _ hx
  · intro hnil
    -- all digits would be zeros, and so would the number
    have hvalue : Nat.ofDigitChars 10 (Nat.toDigits 10 c) 0 = 0 := by
      rw [hk, hnil, List.nil_append, Nat.ofDigitChars_replicate_zero, Nat.mul_zero]
    rw [Nat.ofDigitChars_ten_toDigits] at hvalue
    omega
  · exact getLast?_dropTrailingZeros _

/-- The digits that remain, with the point behind the first of them, have the value of all the digits. -/
theorem dropTrailingZeros_value (ds : List Char) (e : Int) :
    (Nat.ofDigitChars 10 (dropTrailingZeros ds) 0 : ℚ) * 10 ^ (e + 1 - (dropTrailingZeros ds).length) =
      Nat.ofDigitChars 10 ds 0 * 10 ^ (e + 1 - ds.length) := by
  obtain ⟨k, hk⟩ := exists_dropTrailingZeros ds
  generalize dropTrailingZeros ds = shown at hk ⊢
  subst hk
  have hexponent : e + 1 - ((shown ++ List.replicate k '0').length : Int) = e + 1 - shown.length - k := by
    rw [List.length_append, List.length_replicate]
    omega
  rw [hexponent, ofDigitChars_append_zeros]

/-! ## The layouts -/

/-- No zero ends the fraction, but for the one that stands alone between the point and a power of ten. -/
def NoIdleZero (l : Literal) : Prop :=
  ∀ ds ∈ l.fraction, ds.chars ≠ [] ∧ (ds.chars.getLast? = some '0' → ds.chars = ['0'] ∧ l.power ≠ none)

/-- The literal has no sign, and the value of the digits with the point behind the first of them, times ten to an
    exponent. -/
structure Shows (l : Literal) (ds : List Char) (e : Int) : Prop where
  sign : l.sign = .unwritten
  whole : l.whole.chars ≠ []
  value : l.value = Nat.ofDigitChars 10 ds 0 * 10 ^ (e + 1 - ds.length)
  noIdleZero : NoIdleZero l

/-- The digits behind the point of a literal. -/
def fractionChars (l : Literal) : List Char := (l.fraction.map Digits.chars).getD []

section Layouts

variable {ds : List Char} {e : Int}

/-- The digits of a literal may have zeros around them, if the point is where the exponent wants it. -/
theorem shows_of_zeros_around {l : Literal} {a b : Nat} (hsign : l.sign = .unwritten) (hwhole : l.whole.chars ≠ [])
    (hdigits : l.whole.chars ++ fractionChars l = List.replicate a '0' ++ (ds ++ List.replicate b '0'))
    (hpoint : Literal.exponent l.power - (fractionChars l).length = e + 1 - ds.length - b) (hzero : NoIdleZero l) :
    Shows l ds e := by
  refine ⟨hsign, hwhole, ?_, hzero⟩
  have habs : l.value = (Decimal.ofLiteral l).absValue := by
    rw [← Decimal.value_ofLiteral, Decimal.value, Decimal.ofLiteral, hsign]
    rfl
  rw [habs]
  show (Nat.ofDigitChars 10 (l.whole.chars ++ fractionChars l) 0 : ℚ) *
    10 ^ (Literal.exponent l.power - (fractionChars l).length) = _
  rw [hdigits, hpoint, ofDigitChars_zeros_append, ofDigitChars_append_zeros]

theorem Trimmed.getLast?_append (h : Trimmed ds) (s : List Char) : (s ++ ds).getLast? ≠ some '0' := by
  intro hzero
  obtain ⟨c, hc⟩ := Option.ne_none_iff_exists'.mp (mt List.getLast?_eq_none_iff.mp h.ne_nil)
  rw [List.getLast?_append, hc, Option.some_or, Option.some.injEq] at hzero
  exact h.last_ne_zero c hc hzero

/-- A fraction that ends where the digits end has no idle zero. -/
theorem Trimmed.noIdleZero (h : Trimmed ds) {l : Literal} (s : List Char)
    (hfraction : ∀ fs ∈ l.fraction, fs.chars ≠ [] ∧ (s ++ ds).getLast? = fs.chars.getLast?) : NoIdleZero l := by
  intro fs hfs
  obtain ⟨hne, hlast⟩ := hfraction fs hfs
  refine ⟨hne, fun hzero => ?_⟩
  exact absurd (hlast.trans hzero) (h.getLast?_append s)

theorem isDigit_zeros (k : Nat) : ∀ c ∈ List.replicate k '0', c.isDigit = true := by
  intro c hc
  rw [List.eq_of_mem_replicate hc]
  rfl

/-! ### With a power of ten -/

/-- How the power of ten of a scientific layout is written. -/
def writtenPower (e : Int) : Power where
  marker := 'E'
  marker_eq := .inr rfl
  sign := if e < 0 then .minus else .plus
  digits := ⟨Nat.toDigits 10 e.natAbs, fun _ hc => Nat.isDigit_of_mem_toDigits (by decide) (by decide) hc⟩
  ne_nil := Nat.toDigits_ne_nil

theorem powerText_writtenPower (e : Int) :
    Literal.powerText (some (writtenPower e)) =
      'E' :: (if e < 0 then '-' else '+') :: Nat.toDigits 10 e.natAbs := by
  show 'E' :: ((if e < 0 then Sign.minus else Sign.plus).text ++ Nat.toDigits 10 e.natAbs) = _
  split <;> rfl

theorem exponent_writtenPower (e : Int) : Literal.exponent (some (writtenPower e)) = e := by
  show (if e < 0 then Sign.minus else Sign.plus).apply (Nat.ofDigitChars 10 (Nat.toDigits 10 e.natAbs) 0 : Int) = e
  rw [Nat.ofDigitChars_ten_toDigits]
  split
  · show -(e.natAbs : Int) = e
    omega
  · show (e.natAbs : Int) = e
    omega

/-- One digit, the point and the other digits, or a zero if there are none. -/
theorem exists_scientific (h : Trimmed ds) :
    ∃ l : Literal, l.text = scientific ds e ∧ Shows l ds e ∧ l.power ≠ none := by
  obtain ⟨d, rest, rfl⟩ := List.exists_cons_of_ne_nil h.ne_nil
  obtain ⟨hd, hrest⟩ := List.forall_mem_cons.mp h.isDigit_of_mem
  let whole : Digits := ⟨[d], List.forall_mem_singleton.mpr hd⟩
  have hwhole : whole.chars ≠ [] := List.cons_ne_nil _ _
  have htext (fraction : Digits) :
      (⟨.unwritten, whole, some fraction, some (writtenPower e), .inl hwhole⟩ : Literal).text =
        [d] ++ '.' :: fraction.chars ++ 'E' :: (if e < 0 then '-' else '+') :: Nat.toDigits 10 e.natAbs := by
    rw [← powerText_writtenPower]
    rfl
  by_cases hnil : rest = []
  · -- the zero that fills the fraction is the one that `NoIdleZero` allows
    subst hnil
    let fraction : Digits := ⟨['0'], isDigit_zeros 1⟩
    refine ⟨⟨.unwritten, whole, some fraction, some (writtenPower e), .inl hwhole⟩, htext fraction, ?_,
      Option.some_ne_none _⟩
    refine shows_of_zeros_around (a := 0) (b := 1) rfl hwhole rfl ?_ ?_
    · rw [exponent_writtenPower]
      show e - 1 = e + 1 - 1 - 1
      omega
    · rintro _ ⟨⟩
      exact ⟨List.cons_ne_nil _ _, fun _ => ⟨rfl, Option.some_ne_none _⟩⟩
  · let fraction : Digits := ⟨rest, hrest⟩
    refine ⟨⟨.unwritten, whole, some fraction, some (writtenPower e), .inl hwhole⟩, ?_, ?_, Option.some_ne_none _⟩
    · rw [htext, scientific, List.drop_one, List.tail_cons, if_neg hnil]
      rfl
    · refine shows_of_zeros_around (a := 0) (b := 0) rfl hwhole (List.append_nil _).symm ?_ (h.noIdleZero [] ?_)
      · rw [exponent_writtenPower, List.length_cons]
        show e - rest.length = _
        omega
      · rintro _ ⟨⟩
        exact ⟨hnil, List.getLast?_cons_of_ne_nil hnil⟩

/-! ### Without a power of ten -/

/-- The point in front of all digits. -/
theorem exists_point_before (h : Trimmed ds) (k : Nat) :
    ∃ l : Literal, l.text = '0' :: '.' :: List.replicate k '0' ++ ds ∧ Shows l ds (-1 - k) ∧ l.power = none := by
  let fraction : Digits := ⟨List.replicate k '0' ++ ds, List.forall_mem_append.mpr ⟨isDigit_zeros k, h.isDigit_of_mem⟩⟩
  have hwhole : ['0'] ≠ [] := List.cons_ne_nil _ _
  refine ⟨⟨.unwritten, ⟨['0'], isDigit_zeros 1⟩, some fraction, none, .inl hwhole⟩, ?_, ?_, rfl⟩
  · show '0' :: '.' :: (List.replicate k '0' ++ ds ++ []) = _
    rw [List.append_nil]
    rfl
  · refine shows_of_zeros_around (a := k + 1) (b := 0) rfl hwhole ?_ ?_ (h.noIdleZero (List.replicate k '0') ?_)
    · rw [List.replicate_zero, List.append_nil]
      rfl
    · show (0 : Int) - (List.replicate k '0' ++ ds).length = _
      rw [List.length_append, List.length_replicate]
      omega
    · rintro _ ⟨⟩
      exact ⟨List.append_ne_nil_of_right_ne_nil _ h.ne_nil, rfl⟩

/-- No point, and zeros up to the place where it would be. -/
theorem exists_point_behind (h : Trimmed ds) (k : Nat) :
    ∃ l : Literal, l.text = ds ++ List.replicate k '0' ∧ Shows l ds (ds.length + k - 1) ∧ l.power = none := by
  let whole : Digits := ⟨ds ++ List.replicate k '0', List.forall_mem_append.mpr ⟨h.isDigit_of_mem, isDigit_zeros k⟩⟩
  have hwhole : whole.chars ≠ [] := List.append_ne_nil_of_left_ne_nil h.ne_nil _
  refine ⟨⟨.unwritten, whole, none, none, .inl hwhole⟩, List.append_nil _, ?_, rfl⟩
  refine shows_of_zeros_around (a := 0) (b := k) rfl hwhole (List.append_nil _) ?_ ?_
  · show (0 : Int) - 0 = _
    omega
  · rintro _ ⟨⟩

/-- The point between two digits. -/
theorem exists_point_between (h : Trimmed ds) {n : Nat} (hpos : 0 < n) (hlt : n < ds.length) :
    ∃ l : Literal, l.text = ds.take n ++ '.' :: ds.drop n ∧ Shows l ds (n - 1) ∧ l.power = none := by
  let whole : Digits := ⟨ds.take n, fun c hc => h.isDigit_of_mem c (List.mem_of_mem_take hc)⟩
  let fraction : Digits := ⟨ds.drop n, fun c hc => h.isDigit_of_mem c (List.mem_of_mem_drop hc)⟩
  have hwhole : whole.chars ≠ [] := by
    rw [Ne, List.take_eq_nil_iff]
    exact not_or_intro (Nat.ne_of_gt hpos) h.ne_nil
  have hfraction : fraction.chars ≠ [] := by
    rw [Ne, List.drop_eq_nil_iff]
    exact Nat.not_le_of_lt hlt
  refine ⟨⟨.unwritten, whole, some fraction, none, .inl hwhole⟩, ?_, ?_, rfl⟩
  · show ds.take n ++ ('.' :: ds.drop n ++ []) = _
    rw [List.append_nil]
  · refine shows_of_zeros_around (a := 0) (b := 0) rfl hwhole ?_ ?_ (h.noIdleZero [] ?_)
    · show ds.take n ++ ds.drop n = ds ++ []
      rw [List.take_append_drop, List.append_nil]
    · show (0 : Int) - (ds.drop n).length = _
      rw [List.length_drop]
      omega
    · rintro _ ⟨⟩
      refine ⟨hfraction, ?_⟩
      show ds.getLast? = (ds.drop n).getLast?
      rw [List.getLast?_drop, if_neg (Nat.not_le_of_lt hlt)]

/-- The exponent decides where the point is, and it is there. -/
theorem exists_positional (h : Trimmed ds) :
    ∃ l : Literal, l.text = positional ds e ∧ Shows l ds e ∧ l.power = none := by
  unfold positional
  by_cases he : e < 0
  · rw [if_pos he]
    have hexponent : -1 - ((e.natAbs - 1 : Nat) : Int) = e := by omega
    have hbefore := exists_point_before h (e.natAbs - 1)
    rwa [hexponent] at hbefore
  · rw [if_neg he]
    dsimp only
    by_cases hlength : ds.length ≤ e.natAbs + 1
    · rw [if_pos hlength]
      have hexponent : (ds.length : Int) + (e.natAbs + 1 - ds.length : Nat) - 1 = e := by omega
      have hbehind := exists_point_behind h (e.natAbs + 1 - ds.length)
      rwa [hexponent] at hbehind
    · rw [if_neg hlength]
      have hexponent : ((e.natAbs + 1 : Nat) : Int) - 1 = e := by omega
      have hbetween := exists_point_between h (Nat.succ_pos _) (Nat.lt_of_not_le hlength)
      rwa [hexponent] at hbetween

end Layouts

/-! ## Steps that could fail -/

/-- A text cut in two; there is no place behind its end to cut it at. -/
def splitAt? (s : List Char) (n : Nat) : Option (List Char × List Char) :=
  if n ≤ s.length then some (s.take n, s.drop n) else none

/-- A difference that may not be below zero. -/
def difference? (m n : Nat) : Option Nat := if n ≤ m then some (m - n) else none

/-- The layout with a power of ten, cut behind the first digit. -/
def scientific? (ds : List Char) (exponent : Int) : Option (List Char) := do
  let (lead, rest) ← splitAt? ds 1
  let fraction := if rest = [] then ['0'] else rest
  return lead ++ '.' :: fraction ++
    'E' :: (if exponent < 0 then '-' else '+') :: Nat.toDigits 10 exponent.natAbs

/-- The layout without a power of ten, with the number of digits in front of the point computed first. -/
def positional? (ds : List Char) (exponent : Int) : Option (List Char) := do
  let point := exponent + 1
  if point ≤ 0 then return '0' :: '.' :: List.replicate point.natAbs '0' ++ ds
  else
    let point := point.toNat
    if ds.length ≤ point then
      let zeros ← difference? point ds.length
      return ds ++ List.replicate zeros '0'
    else
      let (whole, fraction) ← splitAt? ds point
      return whole ++ '.' :: fraction

/-- The text of the magnitude numbered `n`, if no step fails. -/
def magnitudeText? (n : Nat) : Option (List Char) :=
  let d := Binary64.significant floatDigits n
  let ds := dropTrailingZeros (Nat.toDigits 10 d.coefficient)
  if d.exponent < -4 ∨ (floatDigits : Int) ≤ d.exponent then scientific? ds d.exponent
  else positional? ds d.exponent

section Steps

variable {ds : List Char} {e : Int}

theorem splitAt?_eq {n : Nat} (h : n ≤ ds.length) : splitAt? ds n = some (ds.take n, ds.drop n) := if_pos h

/-- There is a first digit. -/
theorem scientific?_eq (h : ds ≠ []) : scientific? ds e = some (scientific ds e) := by
  rw [scientific?, splitAt?_eq (List.length_pos_of_ne_nil h)]
  rfl

/-- The tests in front of the steps are those that the steps need. -/
theorem positional?_eq : positional? ds e = some (positional ds e) := by
  unfold positional? positional
  dsimp only
  by_cases he : e < 0
  · -- the point is in front of the first digit
    have hzeros : (e + 1).natAbs = e.natAbs - 1 := by omega
    rw [if_pos he, if_pos (by omega), hzeros]
    rfl
  · have hpoint : (e + 1).toNat = e.natAbs + 1 := by omega
    rw [if_neg he, if_neg (by omega), hpoint]
    by_cases hlength : ds.length ≤ e.natAbs + 1
    · rw [if_pos hlength, if_pos hlength, difference?, if_pos hlength]
      rfl
    · rw [if_neg hlength, if_neg hlength, splitAt?_eq (Nat.le_of_not_le hlength)]
      rfl

end Steps

/-! ## The text of a double -/

/-- The fourteen digits and the exponent that a double is rounded to, apart from its sign. -/
def rounded (x : Binary64) : Significant := Binary64.significant floatDigits x.magnitude

section Rounded

variable {x : Binary64}

theorem magnitude_pos (hzero : x.isZero = false) : 0 < x.magnitude :=
  Nat.pos_of_ne_zero fun h => absurd (beq_iff_eq.mpr h) (Bool.eq_false_iff.mp hzero)

theorem rounded_spec (hfinite : x.isFinite = true) (hzero : x.isZero = false) :
    10 ^ 13 ≤ (rounded x).coefficient ∧ (rounded x).coefficient < 10 ^ 14 ∧
      IsRounded (Binary64.magnitudeValue x.magnitude) (rounded x).coefficient ((rounded x).exponent - 13) :=
  Binary64.significant_spec 13 (magnitude_pos hzero) (of_decide_eq_true hfinite)

/-- The digits that are shown, in the layout that the exponent asks for. -/
theorem magnitudeText_eq (x : Binary64) :
    magnitudeText x.magnitude =
      if (rounded x).exponent < -4 ∨ 14 ≤ (rounded x).exponent then
        scientific (dropTrailingZeros (Nat.toDigits 10 (rounded x).coefficient)) (rounded x).exponent
      else positional (dropTrailingZeros (Nat.toDigits 10 (rounded x).coefficient)) (rounded x).exponent := by
  unfold magnitudeText rounded
  rfl

theorem trimmed_rounded (hfinite : x.isFinite = true) (hzero : x.isZero = false) :
    Trimmed (dropTrailingZeros (Nat.toDigits 10 (rounded x).coefficient)) := by
  obtain ⟨hlow, -, -⟩ := rounded_spec hfinite hzero
  exact trimmed_dropTrailingZeros (Nat.lt_of_lt_of_le (by decide) hlow)

theorem magnitudeText?_eq (hfinite : x.isFinite = true) (hzero : x.isZero = false) :
    magnitudeText? x.magnitude = some (magnitudeText x.magnitude) := by
  have htrimmed := trimmed_rounded hfinite hzero
  unfold magnitudeText? magnitudeText
  dsimp only
  split
  · exact scientific?_eq htrimmed.ne_nil
  · exact positional?_eq

/-- A coefficient from `10 ^ 13` on and below `10 ^ 14` has fourteen digits. -/
theorem length_toDigits_coefficient {c : Nat} (hlow : 10 ^ 13 ≤ c) (hhigh : c < 10 ^ 14) :
    (Nat.toDigits 10 c).length = 14 := by
  have hle : (Nat.toDigits 10 c).length ≤ 14 := (Nat.length_toDigits_le_iff (by decide) (by decide)).mpr hhigh
  have hgt : ¬ (Nat.toDigits 10 c).length ≤ 13 := by
    rw [Nat.length_toDigits_le_iff (by decide) (by decide)]
    exact Nat.not_lt_of_le hlow
  omega

/-- The magnitude is written by a literal of the value it is rounded to. -/
theorem exists_magnitudeText (hfinite : x.isFinite = true) (hzero : x.isZero = false) :
    ∃ l : Literal, l.text = magnitudeText x.magnitude ∧ l.sign = .unwritten ∧ l.whole.chars ≠ [] ∧
      l.value = (rounded x).coefficient / 10 ^ 13 * 10 ^ (rounded x).exponent ∧ NoIdleZero l ∧
      (l.power ≠ none ↔ (rounded x).exponent < -4 ∨ 14 ≤ (rounded x).exponent) := by
  obtain ⟨hlow, hhigh, -⟩ := rounded_spec hfinite hzero
  have htrimmed := trimmed_rounded hfinite hzero
  have hvalue {l : Literal}
      (h : Shows l (dropTrailingZeros (Nat.toDigits 10 (rounded x).coefficient)) (rounded x).exponent) :
      l.value = (rounded x).coefficient / 10 ^ 13 * 10 ^ (rounded x).exponent := by
    -- the zeros that are not shown still count as places
    have hexponent : (rounded x).exponent + 1 - ((14 : Nat) : Int) = (rounded x).exponent - ((13 : Nat) : Int) := by
      omega
    rw [h.value, dropTrailingZeros_value, Nat.ofDigitChars_ten_toDigits, length_toDigits_coefficient hlow hhigh,
      hexponent, zpow_sub₀ (by norm_num), zpow_natCast]
    ring
  by_cases hpower : (rounded x).exponent < -4 ∨ 14 ≤ (rounded x).exponent
  · obtain ⟨l, htext, hshows, hsome⟩ := exists_scientific htrimmed (e := (rounded x).exponent)
    rw [magnitudeText_eq, if_pos hpower]
    exact ⟨l, htext, hshows.sign, hshows.whole, hvalue hshows, hshows.noIdleZero, iff_of_true hsome hpower⟩
  · obtain ⟨l, htext, hshows, hnone⟩ := exists_positional htrimmed (e := (rounded x).exponent)
    rw [magnitudeText_eq, if_neg hpower]
    exact ⟨l, htext, hshows.sign, hshows.whole, hvalue hshows, hshows.noIdleZero,
      iff_of_false (not_not_intro hnone) hpower⟩

/-- The sign of a double, as it is written. -/
def writtenSign (x : Binary64) : Sign := if x.negative then .minus else .unwritten

theorem floatText_eq (hfinite : x.isFinite = true) (hzero : x.isZero = false) :
    floatText x = (writtenSign x).text ++ magnitudeText x.magnitude := by
  have hlt : x.magnitude < Binary64.infinityMagnitude := of_decide_eq_true hfinite
  have hnan : x.isNaN = false := decide_eq_false (Nat.not_lt_of_lt hlt)
  have hinfinite : x.isInfinite = false := beq_false_of_ne (Nat.ne_of_lt hlt)
  have hsign : (if x.negative then ['-'] else []) = (writtenSign x).text := by
    unfold writtenSign
    split <;> rfl
  rw [floatText, hnan, hinfinite, hzero, hsign, if_neg Bool.false_ne_true, if_neg Bool.false_ne_true,
    if_neg Bool.false_ne_true]

end Rounded

theorem isBlank_of_isDigit {c : Char} (h : c.isDigit = true) : isBlank c = false := by
  obtain ⟨hlow, hhigh⟩ : 48 ≤ c.toNat ∧ c.toNat ≤ 57 := Char.isDigit_iff_toNat.mp h
  unfold isBlank
  dsimp only
  generalize c.toNat = n at hlow hhigh ⊢
  simp only [Bool.or_eq_false_iff, Bool.and_eq_false_iff, beq_eq_false_iff_ne, decide_eq_false_iff_not]
  omega

/-- A literal holds no blanks. -/
theorem isBlank_of_isLiteralChar {c : Char} (h : isLiteralChar c = true) : isBlank c = false := by
  rw [isLiteralChar, Bool.or_eq_true, List.contains_iff_mem] at h
  rcases h with hdigit | hmem
  · exact isBlank_of_isDigit hdigit
  · have hall : ∀ c ∈ ['.', 'e', 'E', '+', '-'], isBlank c = false := forall_mem_of_all (by decide)
    exact hall c hmem

/-- A literal that has no sign, with a sign in front of it. -/
theorem exists_signed {l : Literal} (h : l.sign = .unwritten) (σ : Sign) :
    ∃ l' : Literal, l'.text = σ.text ++ l.text ∧ l'.value = σ.apply l.value ∧ l'.sign = σ ∧ l'.whole = l.whole ∧
      l'.fraction = l.fraction ∧ l'.power = l.power := by
  refine ⟨{ l with sign := σ }, ?_, ?_, rfl, rfl, rfl, rfl⟩
  · rw [Literal.text, Literal.text, h]
    rfl
  · rw [Literal.value, Literal.value, h]
    rfl

/-- **The text of a double denotes its rounded value.** A finite double other than zero is rounded to fourteen digits,
    the first of which is not zero. Its text is a literal with no blanks and no operator characters, the value of which is
    that of the rounded digits; no idle zero ends its fraction, and it has a power of ten just where the exponent is
    below `-4` or from `14` on. No step of writing it fails. -/
theorem float_text {x : Binary64} (hfinite : x.isFinite = true) (hzero : x.isZero = false) :
    (10 ^ 13 ≤ (rounded x).coefficient ∧ (rounded x).coefficient < 10 ^ 14 ∧
      IsRounded (Binary64.magnitudeValue x.magnitude) (rounded x).coefficient ((rounded x).exponent - 13)) ∧
    (∃ l : Literal, l.text = floatText x ∧ l.sign = writtenSign x ∧ l.whole.chars ≠ [] ∧
      l.value = (writtenSign x).apply ((rounded x).coefficient / 10 ^ 13 * 10 ^ (rounded x).exponent : ℚ) ∧
      NoIdleZero l ∧ (l.power ≠ none ↔ (rounded x).exponent < -4 ∨ 14 ≤ (rounded x).exponent)) ∧
    (∀ c ∈ floatText x, isBlank c = false ∧ isOperatorChar c = false) ∧
    magnitudeText? x.magnitude = some (magnitudeText x.magnitude) := by
  obtain ⟨l, htext, hsign, hwhole, hvalue, hidle, hpower⟩ := exists_magnitudeText hfinite hzero
  obtain ⟨l', hsigned, hvalue', hsign', hwhole', hfraction', hpower'⟩ := exists_signed hsign (writtenSign x)
  have htext' : l'.text = floatText x := by rw [hsigned, htext, floatText_eq hfinite hzero]
  refine ⟨rounded_spec hfinite hzero, ⟨l', htext', hsign', ?_, ?_, ?_, ?_⟩, ?_, magnitudeText?_eq hfinite hzero⟩
  · rw [hwhole']
    exact hwhole
  · rw [hvalue', hvalue]
  · rw [NoIdleZero, hfraction', hpower']
    exact hidle
  · rw [hpower']
    exact hpower
  · intro c hc
    refine ⟨isBlank_of_isLiteralChar ?_, isOperatorChar_floatText c hc⟩
    rw [← htext'] at hc
    exact l'.isLiteralChar_text c hc

/-- The sum of a tenth and two tenths, below zero, is rounded to three tenths. -/
theorem float_text_three_tenths :
    Binary64.isFinite (.ofBits 0xBFD3333333333334) = true ∧ Binary64.isZero (.ofBits 0xBFD3333333333334) = false ∧
      ∃ l : Literal, l.text = "-0.3".toList ∧ l.value = -3 / 10 ∧ l.power = none := by
  have hfinite : Binary64.isFinite (.ofBits 0xBFD3333333333334) = true := by decide
  have hzero : Binary64.isZero (.ofBits 0xBFD3333333333334) = false := by decide
  have hrounded : rounded (.ofBits 0xBFD3333333333334) = ⟨30000000000000, -1⟩ := by decide +kernel
  have htext : floatText (.ofBits 0xBFD3333333333334) = "-0.3".toList := by decide +kernel
  have hsign : writtenSign (.ofBits 0xBFD3333333333334) = .minus := by decide
  obtain ⟨-, ⟨l, hl, -, -, hvalue, -, hpower⟩, -⟩ := float_text hfinite hzero
  rw [hrounded] at hvalue hpower
  rw [hsign, Sign.apply, if_pos rfl] at hvalue
  refine ⟨hfinite, hzero, l, hl.trans htext, ?_, ?_⟩
  · rw [hvalue]
    norm_num
  · exact not_not.mp (mt hpower.mp (by decide))

end Entitlement.Attribute
