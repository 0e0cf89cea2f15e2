import Entitlement.Condition.Operator

/-!
# `Entitlement.Condition.Tokens` — operands and the operators between them

A text is scanned once, without validation. At every place the window of two characters — one character at
the end of the text — is looked up in the alphabet of operators. A window that occurs there is an operator,
even when it starts inside the window before it. Otherwise `>`, `<` and `!` are operators by themselves,
unless they closed the window before, and `=`, `&` and `|` stay in the operand.

## Contents
- **`Tokens`**: a first operand and, for each operator, the operand behind it.
- **`Tokens.scan`**, the scanner, and `tokenize`.
- **`Tokens.render`**: the text that writes tokens one after the other.
-/

namespace Entitlement.Condition

/-- Operands with an operator between any two of them. -/
structure Tokens where
  first : List Char
  rest : List (Operator × List Char)
  deriving DecidableEq

namespace Tokens

/-- The operands in order, always one more than operators. -/
def operands (t : Tokens) : List (List Char) := t.first :: t.rest.map Prod.snd

/-- The operators in order. -/
def operators (t : Tokens) : List Operator := t.rest.map Prod.fst

/-- The tokens with an operator and an empty operand in front. -/
def pushOperator (o : Operator) (t : Tokens) : Tokens := ⟨[], (o, t.first) :: t.rest⟩

/-- The tokens with a character in front of the first operand. -/
def pushChar (c : Char) (t : Tokens) : Tokens := ⟨c :: t.first, t.rest⟩

/-- Up to two characters from the front of a text. -/
def window (s : List Char) : List Char := s.take 2

/-- Whether a character is an operator by itself. -/
def isSingle (c : Char) : Bool := c == '>' || c == '<' || c == '!'

/-- Scans a text whose first character closed the window before it (`closing`) or did not. -/
def scan (closing : Bool) : List Char → Tokens
  | [] => ⟨[], []⟩
  | c :: rest =>
    if isSymbolWindow (window (c :: rest)) then
      pushOperator (.ofSymbol (window (c :: rest))) (scan true rest)
    else if closing then scan false rest
    else if isSingle c then pushOperator (.ofSymbol [c]) (scan false rest)
    else pushChar c (scan false rest)

/-- The tokens written one after the other. -/
def render (t : Tokens) : List Char := t.first ++ t.rest.flatMap fun (o, s) => o.symbol ++ s

@[simp] theorem length_operands (t : Tokens) : t.operands.length = t.operators.length + 1 := by
  simp [operands, operators]

end Tokens

/-- The operands and operators of a text. -/
def tokenize (s : List Char) : Tokens := Tokens.scan false s

end Entitlement.Condition
