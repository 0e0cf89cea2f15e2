import Entitlement.Text.CaseTable
import Entitlement.Text.Ranges

/-!
# `Entitlement.Text.Lowercase` — full lower-casing of a text

Rule names and relation words are compared in lower case. The mapping is the full one of Unicode: `İ` becomes
two characters, and a capital sigma becomes `ς` at the end of a word and `σ` elsewhere, where the end of a
word is read off the cased letters around it.

## Contents
- **Properties.** `isCaseIgnorable`, `isCased`, read off the ranges of the table.
- **`lowerChar`**: the mapping of one character, context aside.
- **`lowercase`**: the mapping of a text, and `lower` on strings.
-/

namespace Entitlement.Text

/-- Whether the context rules for letter case look past a character. -/
def isCaseIgnorable (c : Char) : Bool := inRanges caseIgnorableRanges c.toNat

/-- Whether a character that is not case-ignorable has letter case. -/
def isCased (c : Char) : Bool := inRanges casedRanges c.toNat

/-- The lower-case form of one character; `İ` has two. -/
def lowerChar (c : Char) : List Char :=
  if c = 'İ' then ['i', '\u0307']
  else
    match lowerRanges.find? fun (first, last, stride, _) =>
        first ≤ c.toNat && c.toNat ≤ last && (c.toNat - first) % stride == 0 with
    | some (_, _, _, offset) => [Char.ofNat (c.toNat + offset).toNat]
    | none => [c]

/-- Whether the first character that is not case-ignorable is cased. -/
def startsCased : List Char → Bool
  | [] => false
  | c :: rest => if isCaseIgnorable c then startsCased rest else isCased c

/-- Lower-cases a text that follows a cased letter (`after`), up to case-ignorable characters, or does not. -/
def lowercaseFrom (after : Bool) : List Char → List Char
  | [] => []
  | c :: rest =>
    (if c = 'Σ' then [if after && !startsCased rest then 'ς' else 'σ'] else lowerChar c) ++
      lowercaseFrom (if isCaseIgnorable c then after else isCased c) rest

/-- The full lower-case form of a text. -/
def lowercase (s : List Char) : List Char := lowercaseFrom false s

/-- The full lower-case form of a string. -/
def lower (s : String) : String := String.ofList (lowercase s.toList)

@[simp] theorem toList_lower (s : String) : (lower s).toList = lowercase s.toList := by
  simp [lower]

/-- A text that ends in a character which is neither cased nor case-ignorable closes the word before it:
    what follows is lower-cased on its own. -/
theorem lowercaseFrom_break {after : Bool} {c : Char} {rest : List Char}
    (hi : isCaseIgnorable c = false) (hc : isCased c = false) (hs : c ≠ 'Σ') :
    lowercaseFrom after (c :: rest) = lowerChar c ++ lowercase rest := by
  simp [lowercaseFrom, lowercase, hi, hc, hs]

end Entitlement.Text
