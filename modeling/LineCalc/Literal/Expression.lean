import LineCalc.Literal.Numerals
import LineCalc.Text.LetterForms

/-!
Expressions and the literals among them: numbers, texts and the tuples, sets and dictionaries of
them. Of an expression that is no literal only its kind is kept.
-/
namespace LineCalc.Literal

inductive Expression where
  | name (cs : List Char)
  /-- A constant that has a name, or the three dots. -/
  | constant (word : String)
  | number (number : Number)
  | text
  /-- A text that may hold expressions in braces. -/
  | formatted
  | tuple (items : List Expression)
  | set (items : List Expression)
  /-- Keys and their values by turns. -/
  | dict (entries : List Expression)
  /-- The key of a dictionary that another one is unpacked into. -/
  | noKey
  | starred (operand : Expression)
  | unary (sign : String) (operand : Expression)
  | binary (sign : String) (left right : Expression)
  /-- A comparison with its first sign and what stands before it. -/
  | comparison (sign : String) (left : Expression)
  | call (callee : Expression) (hasArguments : Bool)
  | member
  | other (kind : String)
  deriving Inhabited, Repr

namespace Expression

def ofName (cs : List Char) : Expression := name (cs.map Text.plainLetter)

def kindName : Expression → String
  | name _ => "name"
  | constant "..." => "ellipsis"
  | constant word => word
  | number _ | text => "literal"
  | formatted => "f-string expression"
  | tuple _ => "tuple"
  | set _ => "set display"
  | dict _ => "dict literal"
  | noKey | unary .. | binary .. => "expression"
  | starred _ => "starred"
  | comparison .. => "comparison"
  | call .. => "function call"
  | member => "attribute"
  | other kind => kind

mutual

/-- The kind of a part that cannot be the target of a loop. What is tested for membership is the
target itself. -/
def noTarget? : Expression → Option String
  | name _ | member => none
  | tuple items => firstNoTarget? items
  | starred operand => operand.noTarget?
  | comparison sign left => if sign = "in" then left.noTarget? else none
  | expression => some expression.kindName

def firstNoTarget? : List Expression → Option String
  | [] => none
  | item :: rest => item.noTarget?.or (firstNoTarget? rest)

end

/-- Names of functions that once took their arguments without parentheses. -/
def bareCallers : List String := ["print", "exec"]

def bareCaller? : Expression → Option String
  | name cs => bareCallers.find? (·.toList = cs)
  | _ => none

/-! ### The value of a literal -/

inductive Refusal where
  | zeros
  | malformed
  | noKey
  | unhashable (typeName : String)
  | hugeNumber
  deriving DecidableEq, Repr

def Refusal.message : Refusal → String
  | zeros => "source code string cannot contain null bytes"
  | malformed => "malformed node or string on line 1"
  | noKey => "malformed node or string: None"
  | unhashable typeName => "unhashable type: '" ++ typeName ++ "'"
  | hugeNumber => "int too large to convert to float"

mutual

def unhashable? : Expression → Option String
  | tuple items => firstUnhashable? items
  | set _ | call .. => some "set"
  | dict .. => some "dict"
  | _ => none

def firstUnhashable? : List Expression → Option String
  | [] => none
  | item :: rest => (unhashable? item).or (firstUnhashable? rest)

end

def checkHash (expression : Expression) : Except Refusal Unit :=
  match expression.unhashable? with
  | some typeName => .error (.unhashable typeName)
  | none => .ok ()

def isAddition (sign : String) : Bool := sign = "+" || sign = "-"

def signedNumber? : Expression → Option Number
  | number n => some n
  | unary sign (number n) => if isAddition sign then some n else none
  | _ => none

def checkSum (sign : String) (left right : Expression) : Except Refusal Unit :=
  match left.signedNumber?, right with
  | some real, number imaginary =>
    if isAddition sign && !real.isImaginary && imaginary.isImaginary then
      if real.isHuge then .error .hugeNumber else .ok ()
    else .error .malformed
  | _, _ => .error .malformed

mutual

def check : Expression → Except Refusal Unit
  | constant _ | number _ | text => .ok ()
  | tuple items => checkItems items
  | set items => checkElements items
  | dict entries => checkEntries entries
  | call (name ['s', 'e', 't']) false => .ok ()
  | noKey => .error .noKey
  | binary sign left right => checkSum sign left right
  | unary sign (number _) => if isAddition sign then .ok () else .error .malformed
  | _ => .error .malformed

def checkItems : List Expression → Except Refusal Unit
  | [] => .ok ()
  | item :: rest => do check item; checkItems rest

def checkElements : List Expression → Except Refusal Unit
  | [] => .ok ()
  | item :: rest => do check item; checkHash item; checkElements rest

def checkEntries : List Expression → Except Refusal Unit
  | key :: value :: rest => do
    check key
    check value
    checkHash key
    checkEntries rest
  | _ => .ok ()

end

end Expression
end LineCalc.Literal
