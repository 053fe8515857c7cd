import LineCalc.Syntax.Kind

/-!
The grammar as a relation on the kinds of tokens, with a bound on how deep groups are nested.
-/
namespace LineCalc.Syntax

inductive Category where
  | primary
  | factor
  | term
  deriving DecidableEq, Repr

inductive Derives : Category → Nat → List Kind → Prop where
  | number (nesting : Nat) : Derives .primary nesting [.number]
  | group {nesting : Nat} {word : List Kind} (inner : Derives .term nesting word) :
      Derives .primary (nesting + 1) (.openParenthesis :: (word ++ [.closeParenthesis]))
  | lonePrimary {nesting : Nat} {word : List Kind} (only : Derives .primary nesting word) :
      Derives .factor nesting word
  | product {nesting : Nat} {left right : List Kind} {operator : Kind}
      (first : Derives .factor nesting left) (strength : operator.binaryPrecedence = 2)
      (last : Derives .primary nesting right) : Derives .factor nesting (left ++ operator :: right)
  | loneFactor {nesting : Nat} {word : List Kind} (only : Derives .factor nesting word) :
      Derives .term nesting word
  | sum {nesting : Nat} {left right : List Kind} {operator : Kind}
      (first : Derives .term nesting left) (strength : operator.binaryPrecedence = 1)
      (last : Derives .factor nesting right) : Derives .term nesting (left ++ operator :: right)

end LineCalc.Syntax
