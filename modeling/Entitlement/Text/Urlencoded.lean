import Entitlement.Text.Utf8

/-!
# `Entitlement.Text.Urlencoded` — the query of a URL as names and values

A query is a sequence of `name=value` joined by `&`. In both, `+` is a space and `%` with two hexadecimal
digits is a byte; the bytes are then read as UTF-8.

## Contents
- **`percentDecode`**: bytes with their escapes undone; a `%` without two digits stands for itself.
- **`pairs`**: the names and values of a query, in order.
-/

namespace Entitlement.Text.Urlencoded

/-- The value of a hexadecimal digit. -/
def hexDigit? (b : UInt8) : Option Nat :=
  let n := b.toNat
  if 0x30 ≤ n ∧ n ≤ 0x39 then some (n - 0x30)
  else if 0x41 ≤ n ∧ n ≤ 0x46 then some (n - 0x37)
  else if 0x61 ≤ n ∧ n ≤ 0x66 then some (n - 0x57)
  else none

/-- The byte that the two characters behind a `%` spell. -/
def escaped? : List UInt8 → Option UInt8
  | a :: b :: _ => do return (16 * (← hexDigit? a) + (← hexDigit? b)).toUInt8
  | _ => none

/-- Bytes with their escapes undone. -/
def percentDecode : List UInt8 → List UInt8
  | [] => []
  | b :: rest =>
    match if b = 0x25 then escaped? rest else none with
    | some e => e :: percentDecode (rest.drop 2)
    | none => b :: percentDecode rest
termination_by s => s.length
decreasing_by
  all_goals simp only [List.length_drop, List.length_cons]; omega

/-- A name or a value, decoded. -/
def component (s : List UInt8) : String :=
  String.ofList (Utf8.decodeLossy (percentDecode (s.map fun b => if b = 0x2B then 0x20 else b)))

/-- The names and values of a query; a part without `=` is a name with an empty value, and empty parts do
    not count. -/
def pairs (s : List UInt8) : List (String × String) :=
  ((s.splitOn 0x26).filter (· ≠ [])).map fun part =>
    (component (part.takeWhile (· ≠ 0x3D)), component ((part.dropWhile (· ≠ 0x3D)).drop 1))

/-- A space and an escaped letter. -/
example : component [0x61, 0x2B, 0x25, 0x34, 0x31] = "a A" := by cbv

end Entitlement.Text.Urlencoded
