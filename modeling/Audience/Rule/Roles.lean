import Audience.Rule.Value

namespace Audience

/-! Role expressions.

An expression is the name of a role or a list: one expression in a list stands for itself, a list
of `NOT` and an expression negates it, and a longer list is an expression followed by pairs of an
operator and an expression.  The pairs are applied from left to right without precedence; a pair
with an unknown operator and a last element without partner are passed over.  Every other shape
holds.
-/

namespace RoleExpression

inductive Operator where
  | all
  | any
deriving Repr, DecidableEq

def Operator.ofName? : String → Option Operator
  | "AND" => some .all
  | "OR" => some .any
  | _ => none

def Operator.apply : Operator → Bool → Bool → Bool
  | all, left, right => left && right
  | any, left, right => left || right

/-- The name that negates the expression behind it. -/
def negation : String := "NOT"

/-- Whether a caller holds a role; without an identity none is held. -/
def holds (roles : Option NameSet) (role : String) : Bool :=
  roles.any (·.contains role)

mutual

/-- Whether an expression holds for the roles of a caller. -/
def evaluate (roles : Option NameSet) : Value → Bool
  | .text role => holds roles role
  | .list items => evaluateList roles items
  | _ => true

def evaluateList (roles : Option NameSet) : List Value → Bool
  | [] => true
  | [single] => evaluate roles single
  | [first, second] =>
      if first.text? = some negation then !evaluate roles second else evaluate roles first
  | first :: rest => evaluatePairs roles (evaluate roles first) rest

/-- Applies pairs of operator and expression to the result so far. -/
def evaluatePairs (roles : Option NameSet) (result : Bool) : List Value → Bool
  | operator :: operand :: rest =>
      match operator.text?.bind Operator.ofName? with
      | some operator =>
          evaluatePairs roles (operator.apply result (evaluate roles operand)) rest
      | none => evaluatePairs roles result rest
  | _ => result

end

end RoleExpression

end Audience
