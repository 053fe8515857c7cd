import LineCalc.Evaluation
import LineCalc.Syntax.Parser

/-!
What becomes of one line: a value, a division by zero, or diagnostics.
-/
namespace LineCalc
open Syntax

inductive Outcome where
  | value (n : Int)
  | divisionByZero
  | rejected (diagnostics : Log)
  deriving DecidableEq, Repr

def divisionByZeroMessage : String := "ERROR: Division by zero"

namespace Outcome

def value? : Outcome → Option Int
  | value n => some n
  | _ => none

def fault? : Outcome → Option String
  | divisionByZero => some divisionByZeroMessage
  | _ => none

def diagnostics : Outcome → Log
  | rejected log => log
  | _ => []

end Outcome

structure LineResult where
  tree : Tree
  outcome : Outcome
  deriving DecidableEq, Repr

/-- A tree with diagnostics is not evaluated. Of the faults of evaluation only a division by zero is
an outcome. -/
def evaluateTree (tree : Tree) : Except Fault LineResult :=
  if tree.isEvaluable then
    match tree.root.evaluate with
    | .ok n => .ok ⟨tree, .value n⟩
    | .error .divisionByZero => .ok ⟨tree, .divisionByZero⟩
    | .error fault => .error fault
  else .ok ⟨tree, .rejected tree.diagnostics⟩

def evaluateLine (s : String) : Except Fault LineResult := evaluateTree (parse s)

end LineCalc
