import LineCalc.Syntax.Diagnostic
import LineCalc.Syntax.Expr

/-!
The tree of a line: an expression, the token after it and all that was reported.
-/
namespace LineCalc.Syntax

structure Tree where
  diagnostics : Log
  root : Expr
  endOfFile : Token
  deriving DecidableEq, Repr

def Tree.isEvaluable (tree : Tree) : Bool := tree.diagnostics.isEmpty

end LineCalc.Syntax
