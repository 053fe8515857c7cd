import LineCalc.Syntax.Token

/-!
Expressions over tokens, and the nodes of a syntax tree: expressions and their tokens.
-/
namespace LineCalc.Syntax

inductive Expr where
  | number (token : Token)
  | group (opening : Token) (inner : Expr) (closing : Token)
  | binary (left : Expr) (operator : Token) (right : Expr)
  | unary (operator : Token) (operand : Expr)
  deriving DecidableEq, Repr, Inhabited

namespace Expr

def kind : Expr → Kind
  | number _ => .numberExpression
  | group .. => .parenthesizedExpression
  | binary .. => .binaryExpression
  | unary .. => .unaryExpression

def leaves : Expr → List Token
  | number t => [t]
  | group o e c => o :: (e.leaves ++ [c])
  | binary l op r => l.leaves ++ op :: r.leaves
  | unary op e => op :: e.leaves

/-- One blank on each side of a binary operator and none elsewhere. This is what is printed where
there is room for the calls that it takes. -/
def text : Expr → String
  | number t => t.spelling
  | group _ e _ => "(" ++ e.text ++ ")"
  | binary l op r => l.text ++ " " ++ op.spelling ++ " " ++ r.text
  | unary op e => op.spelling ++ e.text

def mapTokens (f : Token → Token) : Expr → Expr
  | number t => number (f t)
  | group o e c => group (f o) (e.mapTokens f) (f c)
  | binary l op r => binary (l.mapTokens f) (f op) (r.mapTokens f)
  | unary op e => unary (f op) (e.mapTokens f)

def size : Expr → Nat
  | number _ => 2
  | group _ e _ => e.size + 3
  | binary l _ r => l.size + r.size + 2
  | unary _ e => e.size + 2

def nesting : Expr → Nat
  | number _ => 0
  | group _ e _ => e.nesting + 1
  | binary l _ r => max l.nesting r.nesting
  | unary _ e => e.nesting

theorem leaves_mapTokens (f : Token → Token) (e : Expr) :
    (e.mapTokens f).leaves = e.leaves.map f := by
  induction e with
  | number t => rfl
  | group o e c ih => simp [mapTokens, leaves, ih]
  | binary l op r hl hr => simp [mapTokens, leaves, hl, hr]
  | unary op e ih => simp [mapTokens, leaves, ih]

end Expr

inductive Node where
  | token (t : Token)
  | expr (e : Expr)
  deriving DecidableEq, Repr, Inhabited

namespace Node

def kind : Node → Kind
  | token t => t.kind
  | expr e => e.kind

def value : Node → Option Int
  | token t => t.value
  | expr _ => none

def size : Node → Nat
  | token _ => 1
  | expr e => e.size

def children : Node → List Node
  | token _ => []
  | expr (.number t) => [token t]
  | expr (.group o e c) => [token o, expr e, token c]
  | expr (.binary l op r) => [expr l, token op, expr r]
  | expr (.unary op e) => [token op, expr e]

def totalSize : List Node → Nat
  | [] => 0
  | node :: rest => node.size + totalSize rest

theorem totalSize_append (a b : List Node) : totalSize (a ++ b) = totalSize a + totalSize b := by
  induction a with
  | nil => simp [totalSize]
  | cons node rest ih => simp [totalSize, ih, Nat.add_assoc]

theorem size_eq (node : Node) : node.size = totalSize node.children + 1 := by
  match node with
  | token t => rfl
  | expr (.number t) => rfl
  | expr (.group o e c) => simp [children, totalSize, size, Expr.size]; omega
  | expr (.binary l op r) => simp [children, totalSize, size, Expr.size]; omega
  | expr (.unary op e) => simp [children, totalSize, size, Expr.size]; omega

end Node

def Expr.preorderOnto (depth : Nat) (after : List (Nat × Node)) : Expr → List (Nat × Node)
  | .number t => (depth, .expr (.number t)) :: (depth + 1, .token t) :: after
  | .group o e c =>
    (depth, .expr (.group o e c)) :: (depth + 1, .token o) ::
      e.preorderOnto (depth + 1) ((depth + 1, .token c) :: after)
  | .binary l op r =>
    (depth, .expr (.binary l op r)) ::
      l.preorderOnto (depth + 1)
        ((depth + 1, .token op) :: r.preorderOnto (depth + 1) after)
  | .unary op e =>
    (depth, .expr (.unary op e)) :: (depth + 1, .token op) :: e.preorderOnto (depth + 1) after

def Node.preorder : Node → List (Nat × Node)
  | .token t => [(0, .token t)]
  | .expr e => e.preorderOnto 0 []

end LineCalc.Syntax
