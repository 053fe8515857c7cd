/-!
Kinds of tokens and of expression nodes, their names and the binding strength of operators.
-/
namespace LineCalc.Syntax

inductive Kind where
  | bad
  | endOfFile
  | whiteSpace
  | number
  | openParenthesis
  | closeParenthesis
  | plus
  | minus
  | star
  | slash
  | numberExpression
  | parenthesizedExpression
  | binaryExpression
  | unaryExpression
  deriving DecidableEq, Repr, Inhabited

namespace Kind

def all : List Kind :=
  [bad, endOfFile, whiteSpace, number, openParenthesis, closeParenthesis, plus, minus, star, slash,
    numberExpression, parenthesizedExpression, binaryExpression, unaryExpression]

def name : Kind → String
  | bad => "BadToken"
  | endOfFile => "EndOfFileToken"
  | whiteSpace => "WhiteSpaceToken"
  | number => "NumberToken"
  | openParenthesis => "OpenParenthesisToken"
  | closeParenthesis => "CloseParenthesisToken"
  | plus => "PlusToken"
  | minus => "MinusToken"
  | star => "StarToken"
  | slash => "SlashToken"
  | numberExpression => "NumberExpression"
  | parenthesizedExpression => "ParenthesizedExpression"
  | binaryExpression => "BinaryExpression"
  | unaryExpression => "UnaryExpression"

def ofName? (s : String) : Option Kind := all.find? (·.name == s)

theorem ofName?_name (kind : Kind) : ofName? kind.name = some kind := by cases kind <;> decide

theorem name_injective {a b : Kind} (h : a.name = b.name) : a = b := by
  have same := congrArg ofName? h
  simpa [ofName?_name] using same

/-- How strongly a kind binds between two operands; zero if it is no operator there. -/
def binaryPrecedence : Kind → Nat
  | star | slash => 2
  | plus | minus => 1
  | _ => 0

theorem ne_of_binds {operator other : Kind} (binds : 0 < operator.binaryPrecedence)
    (idle : other.binaryPrecedence = 0) : operator ≠ other := by
  rintro rfl
  omega

/-- How strongly a kind binds before its operand; zero if it is no operator there. -/
def unaryPrecedence : Kind → Nat
  | plus | minus => 3
  | _ => 0

end Kind
end LineCalc.Syntax
