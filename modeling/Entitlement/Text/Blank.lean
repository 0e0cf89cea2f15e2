/-!
# `Entitlement.Text.Blank` — blank characters and trimming

## Contents
- **`isBlank`**: the characters with the Unicode property White_Space.
- **`trimWhere`**: a text without the characters of a class at its two ends, and `trim`, `trimString`.
-/

namespace Entitlement.Text

/-- Whether a character has the Unicode property White_Space. -/
def isBlank (c : Char) : Bool :=
  let n := c.toNat
  (0x9 ≤ n && n ≤ 0xD) || n == 0x20 || n == 0x85 || n == 0xA0 || n == 0x1680 ||
    (0x2000 ≤ n && n ≤ 0x200A) || n == 0x2028 || n == 0x2029 || n == 0x202F || n == 0x205F || n == 0x3000

/-- A text without the characters of a class at its two ends. -/
def trimWhere (p : Char → Bool) (s : List Char) : List Char :=
  ((s.dropWhile p).reverse.dropWhile p).reverse

/-- A text without the blanks at its two ends. -/
def trim (s : List Char) : List Char := trimWhere isBlank s

/-- A string without the blanks at its two ends. -/
def trimString (s : String) : String := String.ofList (trim s.toList)

/-- What remains begins with no character of the class. -/
theorem head?_trimWhere {p : Char → Bool} {s : List Char} {c : Char}
    (h : (trimWhere p s).head? = some c) : p c = false := by
  unfold trimWhere at h
  have hsub : (((s.dropWhile p).reverse.dropWhile p).reverse) <+: s.dropWhile p := by
    have := List.dropWhile_suffix p (l := (s.dropWhile p).reverse)
    simpa using List.reverse_prefix.mpr this
  cases hd : s.dropWhile p with
  | nil => simp [hd] at h
  | cons x xs =>
    have hx : p x = false := by
      have := List.head?_dropWhile_not p s
      rw [hd] at this
      simpa using this
    rw [hd] at hsub h
    rcases List.prefix_cons_iff.mp hsub with e | ⟨t, e, _⟩
    · rw [e] at h
      simp at h
    · rw [e] at h
      simp only [List.head?_cons, Option.some.injEq] at h
      exact h ▸ hx

end Entitlement.Text
