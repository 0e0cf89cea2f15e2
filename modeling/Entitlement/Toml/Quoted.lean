/-!
# `Entitlement.Toml.Quoted` — the strings of TOML

A string stands between double quotes, with escapes, or between single quotes, as it is; between three of
either it may run over several lines. All readers here take the text behind the opening quotes and give back
the string and the text behind the closing ones.

## Contents
- **`Reader`**: a reader of the front of a text.
- **Escapes**: `plainEscape?`, `scalar?`.
- **`basic`, `basicLines`, `literal`, `literalLines`**, and `quoted`, which tells them apart.
-/

namespace Entitlement.Toml

/-- A reader of the front of a text: what it read, and the rest. -/
abbrev Reader (α : Type) := List Char → Option (α × List Char)

/-- Whether a character may stand in a string or a comment as it is. -/
def isPlain (c : Char) : Bool := c == '\t' || (0x20 ≤ c.toNat && c.toNat ≠ 0x7F)

/-- Whether a character separates within a line. -/
def isSpace (c : Char) : Bool := c == ' ' || c == '\t'

/-- A text without the space in front. -/
def skipSpace (s : List Char) : List Char := s.dropWhile isSpace

/-- The character behind an end of line, if the text begins with one. -/
def newline? : List Char → Option (List Char)
  | '\n' :: rest => some rest
  | '\r' :: '\n' :: rest => some rest
  | _ => none

/-- The text without an end of line in front. -/
def skipNewline (s : List Char) : List Char := (newline? s).getD s

/-- What a read character adds to the front of a string. -/
def pushFront (c : Char) : Option (List Char × List Char) → Option (List Char × List Char) :=
  Option.map fun (s, rest) => (c :: s, rest)

/-- The character of an escape of one letter. -/
def plainEscape? : Char → Option Char
  | 'b' => some '\x08'
  | 't' => some '\t'
  | 'n' => some '\n'
  | 'f' => some '\x0c'
  | 'r' => some '\r'
  | '"' => some '"'
  | '\\' => some '\\'
  | _ => none

/-- The value of a hexadecimal digit. -/
def hexDigit? (c : Char) : Option Nat :=
  if c.isDigit then some (c.toNat - '0'.toNat)
  else if 'a' ≤ c ∧ c ≤ 'f' then some (c.toNat - 'a'.toNat + 10)
  else if 'A' ≤ c ∧ c ≤ 'F' then some (c.toNat - 'A'.toNat + 10)
  else none

/-- The value of a run of digits in a base up to sixteen. -/
def baseValue? (base : Nat) (ds : List Char) : Option Nat :=
  ds.foldlM (fun n c => (hexDigit? c).bind fun d => if d < base then some (n * base + d) else none) 0

/-- The character with a hexadecimal code point; surrogates and code points out of range have none. -/
def scalar? (ds : List Char) : Option Char :=
  (baseValue? 16 ds).bind fun n => if n.isValidChar then some (Char.ofNat n) else none

/-- A string between double quotes, on one line. -/
def basic : Reader (List Char)
  | [] => none
  | '"' :: rest => some ([], rest)
  | '\\' :: 'u' :: a :: b :: c :: d :: rest =>
    (scalar? [a, b, c, d]).bind fun x => pushFront x (basic rest)
  | '\\' :: 'U' :: a :: b :: c :: d :: e :: f :: g :: h :: rest =>
    (scalar? [a, b, c, d, e, f, g, h]).bind fun x => pushFront x (basic rest)
  | '\\' :: c :: rest => (plainEscape? c).bind fun x => pushFront x (basic rest)
  | c :: rest => if isPlain c then pushFront c (basic rest) else none

/-- Whether a backslash before the text continues the line: only space stands before the end of line. -/
def continues (s : List Char) : Bool := (newline? (skipSpace s)).isSome

/-- A string between three double quotes. Up to two quotes may stand before the closing ones. Behind a
    continued line (`skipping`), blanks and ends of line are passed over. -/
def basicLines (skipping : Bool) : Reader (List Char)
  | [] => none
  | '"' :: '"' :: '"' :: '"' :: '"' :: rest => some (['"', '"'], rest)
  | '"' :: '"' :: '"' :: '"' :: rest => some (['"'], rest)
  | '"' :: '"' :: '"' :: rest => some ([], rest)
  | '\n' :: rest => if skipping then basicLines true rest else pushFront '\n' (basicLines false rest)
  | '\r' :: '\n' :: rest =>
    if skipping then basicLines true rest else pushFront '\n' (basicLines false rest)
  | '\\' :: 'u' :: a :: b :: c :: d :: rest =>
    (scalar? [a, b, c, d]).bind fun x => pushFront x (basicLines false rest)
  | '\\' :: 'U' :: a :: b :: c :: d :: e :: f :: g :: h :: rest =>
    (scalar? [a, b, c, d, e, f, g, h]).bind fun x => pushFront x (basicLines false rest)
  | '\\' :: rest =>
    if continues rest then basicLines true rest
    else
      match rest with
      | [] => none
      | c :: rest => (plainEscape? c).bind fun x => pushFront x (basicLines false rest)
  | c :: rest =>
    if skipping && isSpace c then basicLines true rest
    else if isPlain c then pushFront c (basicLines false rest)
    else none

/-- A string between single quotes, on one line. -/
def literal : Reader (List Char)
  | [] => none
  | '\'' :: rest => some ([], rest)
  | c :: rest => if isPlain c then pushFront c (literal rest) else none

/-- A string between three single quotes. Up to two quotes may stand before the closing ones. -/
def literalLines : Reader (List Char)
  | [] => none
  | '\'' :: '\'' :: '\'' :: '\'' :: '\'' :: rest => some (['\'', '\''], rest)
  | '\'' :: '\'' :: '\'' :: '\'' :: rest => some (['\''], rest)
  | '\'' :: '\'' :: '\'' :: rest => some ([], rest)
  | '\n' :: rest => pushFront '\n' (literalLines rest)
  | '\r' :: '\n' :: rest => pushFront '\n' (literalLines rest)
  | c :: rest => if isPlain c then pushFront c (literalLines rest) else none

/-- A string, quotes included. An end of line right behind three opening quotes does not count. -/
def quoted : Reader String := fun s =>
  let chars : Option (List Char × List Char) :=
    match s with
    | '"' :: '"' :: '"' :: rest => basicLines false (skipNewline rest)
    | '"' :: rest => basic rest
    | '\'' :: '\'' :: '\'' :: rest => literalLines (skipNewline rest)
    | '\'' :: rest => literal rest
    | _ => none
  chars.map fun (cs, rest) => (String.ofList cs, rest)

/-! ## Keys -/

/-- Whether a character may stand in a key without quotes. -/
def isBareKeyChar (c : Char) : Bool := c.isAlphanum || c == '_' || c == '-'

/-- One part of a key: bare, or quoted on one line. -/
def keyPart : Reader String
  | '"' :: rest => (basic rest).map fun (cs, r) => (String.ofList cs, r)
  | '\'' :: rest => (literal rest).map fun (cs, r) => (String.ofList cs, r)
  | s =>
    let word := s.takeWhile isBareKeyChar
    if word = [] then none else some (String.ofList word, s.dropWhile isBareKeyChar)

/-- The parts of a key behind the first, each behind a point; `fuel` bounds their number. -/
def keyParts : Nat → Reader (List String)
  | 0, _ => none
  | fuel + 1, s => do
    let (part, rest) ← keyPart (skipSpace s)
    match skipSpace rest with
    | '.' :: rest =>
      let (parts, rest) ← keyParts fuel rest
      return (part :: parts, rest)
    | rest => return ([part], rest)

/-- The greatest depth of nested values and the greatest number of parts in a key. -/
def depthLimit : Nat := 79

/-- A key of one or more parts with points between them, with the space around it. -/
def dottedKey : Reader (List String) := keyParts depthLimit

end Entitlement.Toml
