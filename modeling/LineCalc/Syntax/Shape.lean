import LineCalc.Syntax.Lexer
import LineCalc.Syntax.Expr

/-!
Expressions as the grammar shapes them and as a line spells them. Shape depends on the kinds of the
tokens alone.
-/
namespace LineCalc.Syntax

/-- A sign that stands for itself, whatever value is put to it. -/
def Token.Spells (kind : Kind) (t : Token) : Prop :=
  t.kind = kind ∧ ∃ c, Lexer.operatorKind? c = some kind ∧ t.text = some c.toString

def Token.SpellsNumber (t : Token) : Prop :=
  ∃ digits n, digits ≠ [] ∧ (∀ c ∈ digits, Text.isAsciiDigit c = true) ∧
    Numeral.int32? (String.ofList digits) = some n ∧
    t = ⟨.number, t.position, some (String.ofList digits), some n⟩

namespace Expr

def strength : Expr → Nat
  | binary _ op _ => op.kind.binaryPrecedence
  | _ => 3

/-- Operators take what binds more strongly than they do; of equals the left one goes first. -/
def WellShaped : Expr → Prop
  | number _ => True
  | group _ e _ => e.WellShaped
  | binary l op r =>
    0 < op.kind.binaryPrecedence ∧ op.kind.binaryPrecedence ≤ l.strength ∧
      op.kind.binaryPrecedence < r.strength ∧ l.WellShaped ∧ r.WellShaped
  | unary .. => False

instance decidableWellShaped : (e : Expr) → Decidable e.WellShaped
  | number _ => .isTrue trivial
  | group _ e _ => decidableWellShaped e
  | binary l _ r =>
    have := decidableWellShaped l
    have := decidableWellShaped r
    inferInstanceAs (Decidable (_ ∧ _ ∧ _ ∧ _ ∧ _))
  | unary .. => .isFalse id

def Spelled : Expr → Prop
  | number t => t.SpellsNumber
  | group o e c => o.Spells .openParenthesis ∧ e.Spelled ∧ c.Spells .closeParenthesis
  | binary l op r => l.Spelled ∧ op.Spells op.kind ∧ r.Spelled
  | unary op e => op.Spells op.kind ∧ e.Spelled

end Expr
end LineCalc.Syntax
