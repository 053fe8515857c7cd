import LineCalc.Syntax.Kind

/-!
Tokens: a kind, the offset of the first character, the text read and the value of a number.
-/
namespace LineCalc.Syntax

/-- A token without text was not read: it stands where one was missing. -/
structure Token where
  kind : Kind
  position : Nat
  text : Option String := none
  value : Option Int := none
  deriving DecidableEq, Repr, Inhabited

namespace Token

def synthesized (kind : Kind) (position : Nat) : Token := { kind, position }

def isSynthesized (t : Token) : Bool := t.text.isNone

def spelling (t : Token) : String := t.text.getD ""

def shift (offset : Nat) (t : Token) : Token := { t with position := t.position + offset }

def unplaced (t : Token) : Token := { t with position := 0 }

end Token
end LineCalc.Syntax
