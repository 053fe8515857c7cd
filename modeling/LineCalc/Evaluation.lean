import LineCalc.Failure
import LineCalc.Syntax.Expr
import LineCalc.Text.Quoted
import LineCalc.Word

/-!
Evaluation of expression trees in signed words of 32 bits. `evaluate` keeps its own stacks, so its
depth does not grow with the tree; `result` is the same by recursion on the tree.
-/
namespace LineCalc
open Syntax

inductive Fault where
  | divisionByZero
  | valuelessNumber (token : Token)
  | unknownOperator (kind : Kind)
  | unknownNode (kind : Kind)
  | missingOperand
  deriving DecidableEq, Repr

namespace Fault

/-- What the fault is called: a division by zero is the input's doing, a node or operator without a
rule is not. -/
def failure? : Fault → Option Failure
  | divisionByZero | missingOperand => none
  | valuelessNumber t =>
    some
      { family := .unreachableNode
        summary := "Number token " ++ (t.text.map Text.quoted).getD "None" ++ " has no value"
        kind? := t.kind }
  | unknownOperator kind => some ⟨.unreachableNode, "Unexpected binary operator found", kind⟩
  | unknownNode kind => some ⟨.unreachableNode, "Unexpected node found", kind⟩

def message : Fault → String
  | divisionByZero => "integer division or modulo by zero"
  | missingOperand => "pop from empty list"
  | fault => (fault.failure?.map Failure.message).getD ""

end Fault

namespace Evaluation

def combine (operator : Kind) (left right : Int) : Except Fault Int :=
  match operator with
  | .plus => .ok (Word.wrap (left + right))
  | .minus => .ok (Word.wrap (left - right))
  | .star => .ok (Word.wrap (left * right))
  | .slash =>
    match Word.divide? left right with
    | some quotient => .ok (Word.wrap quotient)
    | none => .error .divisionByZero
  | kind => .error (.unknownOperator kind)

def numberValue (t : Token) : Except Fault Int :=
  match t.value with
  | some n => .ok n
  | none => .error (.valuelessNumber t)

def result : Expr → Except Fault Int
  | .number t => numberValue t
  | .group _ e _ => result e
  | .binary l op r => do
    let left ← result l
    let right ← result r
    combine op.kind left right
  | .unary .. => .error (.unknownNode .unaryExpression)

inductive Task where
  | visit (e : Expr)
  | apply (operator : Kind)

def Task.weight : Task → Nat
  | visit e => e.size
  | apply _ => 1

def weight : List Task → Nat
  | [] => 0
  | task :: tasks => task.weight + weight tasks

/-- Does the tasks in order; the values found so far are a stack, the newest first. -/
def run : (tasks : List Task) → (values : List Int) → Except Fault Int
  | [], [] => .error .missingOperand
  | [], value :: _ => .ok value
  | .visit (.number t) :: tasks, values =>
    match numberValue t with
    | .ok value => run tasks (value :: values)
    | .error fault => .error fault
  | .visit (.group _ e _) :: tasks, values => run (.visit e :: tasks) values
  | .visit (.binary l op r) :: tasks, values =>
    run (.visit l :: .visit r :: .apply op.kind :: tasks) values
  | .visit (.unary ..) :: _, _ => .error (.unknownNode .unaryExpression)
  | .apply op :: tasks, right :: left :: values =>
    match combine op left right with
    | .ok value => run tasks (value :: values)
    | .error fault => .error fault
  | .apply _ :: _, _ => .error .missingOperand
termination_by tasks => weight tasks
decreasing_by all_goals simp only [weight, Task.weight, Expr.size]; omega

end Evaluation

def Syntax.Expr.evaluate (e : Expr) : Except Fault Int := Evaluation.run [.visit e] []

def Syntax.Node.evaluate : Node → Except Fault Int
  | .token t => .error (.unknownNode t.kind)
  | .expr e => e.evaluate

end LineCalc
