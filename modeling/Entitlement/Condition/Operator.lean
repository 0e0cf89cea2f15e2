/-!
# `Entitlement.Condition.Operator` — the operators of a condition

## Contents
- **`Operator`**: six comparisons, two combinators, and symbols that stand for no operation.
- **`symbol` and `ofSymbol`**: how an operator is written, and which one a symbol stands for.
- **`alphabet`**: the one text whose characters are the operator characters and whose pairs of neighbours
  are scanned as one symbol.
-/

namespace Entitlement.Condition

/-- An operator between two operands. -/
inductive Operator where
  | ge
  | gt
  | le
  | lt
  | eq
  | ne
  | and
  | or
  | unsupported (symbol : List Char)
  deriving DecidableEq

/-- The text in which every pair of neighbours is scanned as one symbol. -/
def alphabet : List Char :=
  ['>', '=', '>', '<', '=', '<', '&', '&', '=', '=', '|', '|', '!', '=']

/-- Whether a character belongs to operators. -/
def isOperatorChar (c : Char) : Bool := alphabet.contains c

/-- Whether a text occurs in another without a gap. -/
def occursIn (w : List Char) : List Char → Bool
  | [] => w.isEmpty
  | c :: rest => w.isPrefixOf (c :: rest) || occursIn w rest

theorem occursIn_iff {w s : List Char} : occursIn w s = true ↔ w <:+: s := by
  induction s with
  | nil => simp [occursIn]
  | cons c rest ih => simp [occursIn, List.infix_cons_iff, ih]

/-- Whether a text of one or two characters is scanned as one symbol. -/
def isSymbolWindow (w : List Char) : Bool := occursIn w alphabet

namespace Operator

/-- How the operator is written. -/
def symbol : Operator → List Char
  | ge => ['>', '=']
  | gt => ['>']
  | le => ['<', '=']
  | lt => ['<']
  | eq => ['=', '=']
  | ne => ['!', '=']
  | and => ['&', '&']
  | or => ['|', '|']
  | unsupported s => s

/-- The operator that a symbol stands for. -/
def ofSymbol : List Char → Operator
  | ['>', '='] => ge
  | ['>'] => gt
  | ['<', '='] => le
  | ['<'] => lt
  | ['=', '='] => eq
  | ['!', '='] => ne
  | ['&', '&'] => and
  | ['|', '|'] => or
  | s => unsupported s

/-- Whether the operator combines truth values; every other one compares operands. -/
def isCombinator : Operator → Bool
  | and | or => true
  | _ => false

/-- A symbol is the symbol of the operator that it stands for. -/
@[simp] theorem symbol_ofSymbol (s : List Char) : (ofSymbol s).symbol = s := by
  unfold ofSymbol
  split <;> rfl

end Operator

end Entitlement.Condition
