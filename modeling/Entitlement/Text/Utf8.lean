/-!
# `Entitlement.Text.Utf8` — reading bytes that may not be UTF-8

## Contents
- **`followers?`**: the bytes that may follow a leading byte.
- **`decodeLossy`**: the text of any bytes; each longest run that starts like a character and does not
  complete one is read as one replacement character.
-/

namespace Entitlement.Text.Utf8

/-- The character that stands for bytes that spell none. -/
def replacement : Char := '\uFFFD'

/-- The range of the bytes that continue a character. -/
def continuation : Nat × Nat := (0x80, 0xBF)

/-- The ranges of the bytes that follow a leading byte, or `none` if the byte leads no character. The
    narrower ranges leave out longer spellings of a character, surrogates, and numbers beyond the last
    character. -/
def followers? (lead : Nat) : Option (List (Nat × Nat)) :=
  if lead < 0x80 then some []
  else if lead < 0xC2 then none
  else if lead < 0xE0 then some [continuation]
  else if lead = 0xE0 then some [(0xA0, 0xBF), continuation]
  else if lead = 0xED then some [(0x80, 0x9F), continuation]
  else if lead < 0xF0 then some [continuation, continuation]
  else if lead = 0xF0 then some [(0x90, 0xBF), continuation, continuation]
  else if lead < 0xF4 then some [continuation, continuation, continuation]
  else if lead = 0xF4 then some [(0x80, 0x8F), continuation, continuation]
  else none

/-- The bytes at the front of a text that lie in the given ranges, one after the other. -/
def following : List (Nat × Nat) → List UInt8 → List UInt8
  | (least, greatest) :: ranges, b :: rest =>
    if least ≤ b.toNat ∧ b.toNat ≤ greatest then b :: following ranges rest else []
  | _, _ => []

/-- The number that a leading byte and its followers spell. -/
def codePoint (lead : Nat) (tail : List UInt8) : Nat :=
  tail.foldl (fun n b => n * 64 + b.toNat % 64)
    (if tail = [] then lead else lead % Nat.pow 2 (6 - tail.length))

/-- The first character of a text that begins with `lead`, and the number of bytes it takes of the rest. -/
def first (lead : UInt8) (rest : List UInt8) : Char × Nat :=
  match followers? lead.toNat with
  | none => (replacement, 0)
  | some ranges =>
    let tail := following ranges rest
    if tail.length = ranges.length then (Char.ofNat (codePoint lead.toNat tail), tail.length)
    else (replacement, tail.length)

/-- The text of any bytes. -/
def decodeLossy : List UInt8 → List Char
  | [] => []
  | b :: rest => (first b rest).1 :: decodeLossy (rest.drop (first b rest).2)
termination_by s => s.length
decreasing_by
  simp only [List.length_drop, List.length_cons]
  omega

/-- A cut character is one replacement character, and so is each byte of a surrogate. -/
example : decodeLossy [0xF0, 0x9F, 0x98, 0x41] = [replacement, 'A'] ∧
    decodeLossy [0xED, 0xA0, 0x80] = [replacement, replacement, replacement] := by decide +kernel

end Entitlement.Text.Utf8
