import Entitlement.Condition.Chain
import Entitlement.Condition.Substitution

/-!
# `Entitlement.Condition.Evaluation` — the truth value of a condition for one user

A condition such as `score>5&&score<100||name!=abc` is stripped of spacing, the values of the user's attributes
are pasted over their names, and what results is scanned and reduced.

## Contents
- **`Failure`**: why a condition has no truth value, with its `message`.
- **`evaluate`**: the truth value or the failure.
-/

namespace Entitlement.Condition

open Attribute

/-- Why a condition has no truth value. The text carried along is the condition after substitution, except
    that a condition without an attribute row is carried as it stands. -/
inductive Failure where
  | empty
  | danglingOperator (condition : String)
  | missingOperand (operator : Operator) (condition : String)
  | noOperator (condition : String)
  | missingAttributes (condition : String)
  deriving DecidableEq

/-- The wording of a failure. -/
def Failure.message : Failure → String
  | .empty => "condition is empty"
  | .danglingOperator c => "condition `" ++ c ++ "` ends with an operator"
  | .missingOperand o c =>
    "operator `" ++ String.ofList o.symbol ++ "` in `" ++ c ++ "` is missing an operand"
  | .noOperator c => "condition `" ++ c ++ "` contains no operator"
  | .missingAttributes c => "no attribute row available to evaluate `" ++ c ++ "`"

/-- The truth value of a condition that has no spacing and whose attributes are already pasted in. -/
def evaluateText (s : List Char) : Except Failure Bool :=
  if s.getLast?.any isOperatorChar then .error (.danglingOperator (String.ofList s))
  else
    let tokens := tokenize s
    if tokens.rest = [] then .error (.noOperator (String.ofList s))
    else
      match tokens.truth? with
      | .ok b => .ok b
      | .error o => .error (.missingOperand o (String.ofList s))

/-- The truth value of a condition for a user's row of attributes. -/
def evaluate (mode : Mode) (row : Row) (condition : String) : Except Failure Bool :=
  let stripped := stripSpaces condition.toList
  if stripped = [] then .error .empty else evaluateText (substitute mode row stripped)

end Entitlement.Condition
