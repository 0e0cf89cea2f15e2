import Entitlement.Condition.Comparison
import Entitlement.Condition.Tokens

/-!
# `Entitlement.Condition.Chain` — from tokens to a truth value

The operators are walked from left to right with the operands waiting in a queue. A comparison takes two
operands from the front and leaves a truth value. An `||` takes no operand, with two exceptions: the operand
in front of a condition that starts with `||`, and a single operand that is left when an `||` is met, are taken
for truth values of their own. The truth values are then combined with `&&` binding tighter than `||`.

## Contents
- **`Combinator`, `Walk`, `walk?`**: the first walk; it stops at a comparison without two operands.
- **`combine`**: the truth value of the collected values under the sequence of combinators.
- **`Tokens.truth?`**: both together.
-/

namespace Entitlement.Condition

/-- How two truth values are combined. -/
inductive Combinator where
  | and
  | or
  deriving DecidableEq

/-- What the walk over the operators has collected, and the operands it has not used. -/
structure Walk where
  operands : List (List Char)
  results : List Bool
  combinators : List Combinator
  deriving DecidableEq

namespace Walk

/-- Takes the operand in front for a truth value of its own, if there is one. -/
def takeBare (w : Walk) : Walk :=
  match w.operands with
  | [] => w
  | s :: rest => { w with operands := rest, results := w.results ++ [truthy s] }

/-- Meets `&&`. -/
def meetAnd (w : Walk) : Walk := { w with combinators := w.combinators ++ [.and] }

/-- Meets `||`, as the first operator of the condition (`leading`) or a later one. -/
def meetOr (leading : Bool) (w : Walk) : Walk :=
  let w := { w with combinators := w.combinators ++ [.or] }
  let w := if leading then w.takeBare else w
  if w.operands.length = 1 then w.takeBare else w

/-- Meets a comparison; none when two operands are not left. -/
def meetComparison? (o : Operator) (w : Walk) : Option Walk :=
  match w.operands with
  | left :: right :: rest => some { w with operands := rest, results := w.results ++ [o.holds left right] }
  | _ => none

end Walk

/-- Walks the operators; the error is the comparison that lacks an operand. -/
def walk? (leading : Bool) (w : Walk) : List Operator → Except Operator Walk
  | [] => .ok w
  | .and :: rest => walk? false w.meetAnd rest
  | .or :: rest => walk? false (w.meetOr leading) rest
  | o :: rest =>
    match w.meetComparison? o with
    | some w' => walk? false w' rest
    | none => .error o

/-! ## Combining -/

/-- Moves the only pending value to the disjuncts. -/
def settle : List Bool × List Bool → List Bool × List Bool
  | ([b], disjuncts) => ([], disjuncts ++ [b])
  | state => state

/-- One combinator over the pending values and the disjuncts: `&&` replaces the two values in front by their
    conjunction, `||` closes a disjunct; a value that is missing counts as false. -/
def combineStep : List Bool × List Bool → Combinator → List Bool × List Bool
  | (pending, disjuncts), .and =>
    settle ((pending.headD false && (pending.drop 1).headD false) :: pending.drop 2, disjuncts)
  | (pending, disjuncts), .or => settle (pending.drop 1, disjuncts ++ [pending.headD false])

/-- The truth value of a sequence of values under a sequence of combinators: without combinators the first
    value, with one kind of them all or any of the values, and with both the disjunction that the steps
    collect. -/
def combine (combinators : List Combinator) (results : List Bool) : Bool :=
  match combinators.contains .and, combinators.contains .or with
  | false, false => results.headD false
  | true, false => results.all id
  | false, true => results.any id
  | true, true => (combinators.foldl combineStep (results, [])).2.any id

/-- The truth value of tokens; the error is the comparison that lacks an operand. -/
def Tokens.truth? (t : Tokens) : Except Operator Bool :=
  (walk? true ⟨t.operands, [], []⟩ t.operators).map fun w => combine w.combinators w.results

end Entitlement.Condition
