import Entitlement.Attribute.Row
import Entitlement.Text.Identifier

/-!
# `Entitlement.Condition.Substitution` — pasting attribute values over their names

## Contents
- **`stripSpaces`**: a condition without spaces, tabs, carriage returns and newlines.
- **`Mode`**: whether a name is replaced wherever it occurs, or only as a whole identifier.
- **`replace`**: one pass for one name, over non-overlapping occurrences from the left.
- **`substitute`**: the passes of a whole row, in row order.
-/

namespace Entitlement.Condition

open Attribute
open Text (isIdentifierChar)

/-- Whether a condition is read without the character. -/
def isSpacing (c : Char) : Bool := c == ' ' || c == '\t' || c == '\r' || c == '\n'

/-- A class that leaves out the four spacing characters holds no spacing. -/
theorem isSpacing_of_class {p : Char → Bool} (hp : [' ', '\t', '\r', '\n'].all (fun x => !p x) = true) {c : Char}
    (h : p c = true) : isSpacing c = false := by
  rw [Bool.eq_false_iff]
  intro hs
  have hmem : c ∈ [' ', '\t', '\r', '\n'] := by simpa [isSpacing, or_assoc] using hs
  have hout : (!p c) = true := List.all_eq_true.mp hp c hmem
  rw [h] at hout
  exact Bool.noConfusion hout

/-- A condition without its spacing. -/
def stripSpaces (s : List Char) : List Char := s.filter fun c => !isSpacing c

/-- How attribute names are found in a condition. -/
inductive Mode where
  /-- Every occurrence of a name counts, also inside a longer identifier. -/
  | literal
  /-- Only an occurrence with no identifier character on either side counts. -/
  | wordBoundary
  deriving DecidableEq

/-- Whether an occurrence counts, given the characters around it. -/
def Mode.admits : Mode → Option Char → Option Char → Bool
  | .literal, _, _ => true
  | .wordBoundary, before, after => !before.any isIdentifierChar && !after.any isIdentifierChar

/-- Replaces the occurrences of a name that count by a text. An occurrence that does not count is kept, and
    the search goes on behind it all the same. `skip` characters of the text belong to the occurrence just
    dealt with, and `before` is the character in front of the text. -/
def replaceFrom (mode : Mode) (name text : List Char) (skip : Nat) (before : Option Char) :
    List Char → List Char
  | [] => []
  | c :: rest =>
    match skip with
    | k + 1 => replaceFrom mode name text k (some c) rest
    | 0 =>
      if name.isPrefixOf (c :: rest) then
        (if mode.admits before (rest.drop (name.length - 1)).head? then text else name) ++
          replaceFrom mode name text (name.length - 1) (some c) rest
      else c :: replaceFrom mode name text 0 (some c) rest

/-- Replaces the occurrences of a name that count; an empty name occurs nowhere. -/
def replace (mode : Mode) (name text s : List Char) : List Char :=
  if name = [] then s else replaceFrom mode name text 0 none s

/-- Pastes the text of each attribute over its name, one attribute after the other. -/
def substitute (mode : Mode) (row : Row) (s : List Char) : List Char :=
  row.entries.foldl (fun acc (name, value) => replace mode name.toList value.text acc) s

end Entitlement.Condition
