import LineCalc.Drawing

/-!
Outlines: the rows of a drawn tree by recursion on it. A row is known by its node, by whether that is
a last child, and by which of the nodes above are, the root first.
-/
namespace LineCalc.Outline
open Syntax

structure Row where
  above : List Bool
  isLast : Bool
  node : Node
  deriving DecidableEq, Repr

def Row.line (row : Row) : String :=
  String.join (row.above.map Drawing.guide) ++ Drawing.marker row.isLast ++ Drawing.label row.node

def ofExpr (above : List Bool) (isLast : Bool) : Expr → List Row
  | .number t => [⟨above, isLast, .expr (.number t)⟩, ⟨above ++ [isLast], true, .token t⟩]
  | .group o e c =>
    [⟨above, isLast, .expr (.group o e c)⟩, ⟨above ++ [isLast], false, .token o⟩] ++
      ofExpr (above ++ [isLast]) false e ++ [⟨above ++ [isLast], true, .token c⟩]
  | .binary l op r =>
    [⟨above, isLast, .expr (.binary l op r)⟩] ++ ofExpr (above ++ [isLast]) false l ++
      [⟨above ++ [isLast], false, .token op⟩] ++ ofExpr (above ++ [isLast]) true r
  | .unary op e =>
    [⟨above, isLast, .expr (.unary op e)⟩, ⟨above ++ [isLast], false, .token op⟩] ++
      ofExpr (above ++ [isLast]) true e

def ofNode : Node → List Row
  | .token t => [⟨[], true, .token t⟩]
  | .expr e => ofExpr [] true e

theorem length_ofExpr (above : List Bool) (isLast : Bool) (e : Expr) :
    (ofExpr above isLast e).length = e.size := by
  induction e generalizing above isLast with
  | number t => rfl
  | group o e c ih => simp [ofExpr, Expr.size, ih]
  | binary l op r hl hr => simp [ofExpr, Expr.size, hl, hr]; omega
  | unary op e ih => simp [ofExpr, Expr.size, ih]

theorem length_ofNode (node : Node) : (ofNode node).length = node.size := by
  cases node with
  | token t => rfl
  | expr e => exact length_ofExpr [] true e

end LineCalc.Outline
