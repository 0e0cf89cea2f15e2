import Entitlement.Text.Blank
import Entitlement.Text.GraphemeTable
import Entitlement.Text.Ranges

/-!
# `Entitlement.Text.Quoted` — a text in double quotes, for a message

Inside the quotes everything can be seen: what would end the text or hide in it is escaped.

## Contents
- **`isShown`**: the characters that are seen as they are.
- **`quotedChar`, `quoted`**: the quoted form of a character and of a text.
-/

namespace Entitlement.Text

/-- Whether a character is seen as itself: it carries a sign of its own, and it is not a blank other than the
    space. -/
def isShown (c : Char) : Bool := inRanges graphemeBaseRanges c.toNat && (c == ' ' || !isBlank c)

/-- A character by its code point. -/
def escaped (c : Char) : List Char := '\\' :: 'u' :: '\x7b' :: Nat.toDigits 16 c.toNat ++ ['\x7d']

/-- A character inside double quotes: quotes, backslashes and what is not seen are escaped. -/
def quotedChar (c : Char) : List Char :=
  if c = '"' ∨ c = '\\' then ['\\', c]
  else if c = '\n' then ['\\', 'n']
  else if c = '\r' then ['\\', 'r']
  else if c = '\t' then ['\\', 't']
  else if c.toNat = 0 then ['\\', '0']
  else if isShown c then [c]
  else escaped c

/-- A text in double quotes. -/
def quoted (s : String) : String := String.ofList ('"' :: s.toList.flatMap quotedChar ++ ['"'])

example : isShown 'a' ∧ isShown ' ' ∧ ¬ isShown '\u00A0' ∧ ¬ isShown '\u0301' := by decide +kernel

end Entitlement.Text
