import Entitlement.Numeral.Decimal
import Entitlement.Toml.Quoted

/-!
# `Entitlement.Toml.Number` — the numbers and moments of TOML

## Contents
- **`digitRun`**: digits of a class, with single underscores between them.
- **`integer`, `float`**: decimal, hexadecimal, octal and binary integers of 64 bits; floats, of which a
  literal that overflows upwards is refused.
- **`moment`**: a date, a time, or a date with a time and perhaps an offset, each within its range.
-/

namespace Entitlement.Toml

open Numeral

/-! ## Digits -/

/-- The digits that go on a run; an underscore must stand between two digits. -/
def digitRest (p : Char → Bool) : Reader (List Char)
  | [] => some ([], [])
  | '_' :: [] => none
  | '_' :: c :: rest => if p c then pushFront c (digitRest p rest) else none
  | c :: rest => if p c then pushFront c (digitRest p rest) else some ([], c :: rest)

/-- A run of digits, the underscores left out. -/
def digitRun (p : Char → Bool) : Reader (List Char)
  | [] => none
  | c :: rest => if p c then pushFront c (digitRest p rest) else none

/-- A run of decimal digits without a zero in front, or a single zero. -/
def wholeRun : Reader (List Char)
  | '0' :: rest => some (['0'], rest)
  | s => digitRun Char.isDigit s

/-- Whether a character is a digit in a base up to sixteen. -/
def isBaseDigit (base : Nat) (c : Char) : Bool := (hexDigit? c).any (· < base)

/-! ## Integers and floats -/

/-- An integer in a base other than ten, behind its two letters. -/
def baseInteger (base : Nat) : Reader Int := fun s => do
  let (ds, rest) ← digitRun (isBaseDigit base) s
  let n ← baseValue? base ds
  if int64.holds n then return (n, rest) else none

/-- An integer of 64 bits. -/
def integer : Reader Int
  | '0' :: 'x' :: rest => baseInteger 16 rest
  | '0' :: 'o' :: rest => baseInteger 8 rest
  | '0' :: 'b' :: rest => baseInteger 2 rest
  | s => do
    let (negative, s) := splitSign s
    let (ds, rest) ← wholeRun s
    let n : Int := Nat.ofDigitChars 10 ds 0
    let i := if negative then -n else n
    if int64.holds i then return (i, rest) else none

/-- A point and digits. -/
def fraction : Reader (List Char)
  | '.' :: rest => (digitRun Char.isDigit rest).map fun (ds, r) => ('.' :: ds, r)
  | _ => none

/-- The letter of a power of ten, a sign and digits. -/
def power : Reader (List Char)
  | c :: rest =>
    if c = 'e' ∨ c = 'E' then
      let (negative, s) := splitSign rest
      (digitRun Char.isDigit s).map fun (ds, r) => ('e' :: (if negative then '-' :: ds else ds), r)
    else none
  | [] => none

/-- A float without its sign: digits, then a fraction, a power of ten or both. -/
def floatDigits : Reader (List Char) := fun s => do
  let (whole, rest) ← wholeRun s
  match rest with
  | '.' :: _ =>
    let (f, rest) ← fraction rest
    match rest with
    | 'e' :: _ | 'E' :: _ =>
      let (p, rest) ← power rest
      return (whole ++ f ++ p, rest)
    | _ => return (whole ++ f, rest)
  | _ =>
    let (p, rest) ← power rest
    return (whole ++ p, rest)

/-- The pattern of the number that is none. -/
def notANumber (negative : Bool) : Binary64 := .ofMagnitude negative (Binary64.infinityMagnitude + 0x8000000000000)

/-- A float, in digits or as one of the words `inf` and `nan`. -/
def float : Reader Binary64 := fun s =>
  let (negative, body) := splitSign s
  match body with
  | 'i' :: 'n' :: 'f' :: rest => some (.infinity negative, rest)
  | 'n' :: 'a' :: 'n' :: rest => some (notANumber negative, rest)
  | body => do
    let (ds, rest) ← floatDigits body
    let d ← Decimal.unsigned? negative ds
    let x := d.toBinary64
    if x = .infinity false then none else return (x, rest)

/-! ## Moments -/

/-- Two digits with a value in a range. -/
def twoDigits (least greatest : Nat) : Reader Nat
  | a :: b :: rest =>
    if a.isDigit && b.isDigit then
      let n := Nat.ofDigitChars 10 [a, b] 0
      if least ≤ n ∧ n ≤ greatest then some (n, rest) else none
    else none
  | _ => none

/-- A given character. -/
def character (x : Char) : Reader Unit
  | c :: rest => if c = x then some ((), rest) else none
  | [] => none

/-- The number of days of a month. -/
def daysOfMonth (year month : Nat) : Nat :=
  if month = 2 then
    if year % 4 = 0 ∧ (year % 100 ≠ 0 ∨ year % 400 = 0) then 29 else 28
  else if month = 4 ∨ month = 6 ∨ month = 9 ∨ month = 11 then 30
  else 31

/-- A date: year, month and day that exist. -/
def date : Reader Unit := fun s => do
  let (century, s) ← twoDigits 0 99 s
  let (year, s) ← twoDigits 0 99 s
  let (_, s) ← character '-' s
  let (month, s) ← twoDigits 1 12 s
  let (_, s) ← character '-' s
  let (day, s) ← twoDigits 1 31 s
  if day ≤ daysOfMonth (century * 100 + year) month then return ((), s) else none

/-- A time of day; the sixtieth second exists, and a fraction of it has at least one digit. -/
def time : Reader Unit := fun s => do
  let (_, s) ← twoDigits 0 23 s
  let (_, s) ← character ':' s
  let (_, s) ← twoDigits 0 59 s
  let (_, s) ← character ':' s
  let (_, s) ← twoDigits 0 60 s
  match s with
  | '.' :: c :: rest => if c.isDigit then return ((), rest.dropWhile Char.isDigit) else return ((), s)
  | _ => return ((), s)

/-- The offset of a time from universal time. -/
def offset : Reader Unit
  | [] => none
  | c :: rest =>
    if c = 'Z' ∨ c = 'z' then some ((), rest)
    else if c = '+' ∨ c = '-' then do
      let (_, s) ← twoDigits 0 23 rest
      let (_, s) ← character ':' s
      let (_, s) ← twoDigits 0 59 s
      return ((), s)
    else none

/-- The time behind a date, with its offset, if there is one. -/
def timeBehindDate (s : List Char) : List Char :=
  match s with
  | c :: rest =>
    if c = 'T' ∨ c = 't' ∨ c = ' ' then
      match time rest with
      | some (_, r) => ((offset r).map Prod.snd).getD r
      | none => s
    else s
  | [] => s

/-- A date, a time, or a date with a time. -/
def moment : Reader Unit := fun s =>
  match date s with
  | some (_, rest) => some ((), timeBehindDate rest)
  | none => time s

end Entitlement.Toml
