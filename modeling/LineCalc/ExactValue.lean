import LineCalc.Syntax.Expr

/-!
Values of expressions in unbounded integers. Only sums, differences and products have one.
-/
namespace LineCalc.Syntax.Expr

def exactly (operator : Kind) (left right : Int) : Option Int :=
  match operator with
  | .plus => some (left + right)
  | .minus => some (left - right)
  | .star => some (left * right)
  | _ => none

def exactValue? : Expr → Option Int
  | number t => t.value
  | group _ e _ => e.exactValue?
  | binary l op r => do
    let left ← l.exactValue?
    let right ← r.exactValue?
    exactly op.kind left right
  | unary .. => none

def ungrouped : Expr → Expr
  | group _ e _ => e.ungrouped
  | e => e

end LineCalc.Syntax.Expr
