import LineCalc.Syntax.Expr

/-!
Printing an expression while only so many calls can be open at once. A part is printed by calls that
are made inside the call that prints the whole, so a tree can be too high to be printed.
-/
namespace LineCalc.Syntax

/-- The call that was one too many: to format a part, to ask it for its text, or to run its
printer. -/
inductive Overflow where
  | formatting
  | asking
  | running
  deriving DecidableEq, Repr

abbrev Printer := Nat → Except Overflow String

namespace Printer

/-- How many calls can be open at once, those of the caller included. -/
def callLimit : Nat := 1000

def asked (printer : Printer) : Printer
  | 0 => .error .asking
  | 1 => .error .running
  | room + 2 => printer room

def formatted (printer : Printer) : Printer
  | 0 => .error .formatting
  | room + 1 => printer.asked room

def Prints (printer : Printer) (calls : Nat) (text : String) : Prop :=
  ∀ room s, printer room = .ok s ↔ calls ≤ room ∧ s = text

variable {printer : Printer} {calls : Nat} {text : String}

theorem Prints.asked (prints : printer.Prints calls text) :
    printer.asked.Prints (calls + 2) text := by
  intro room s
  match room with
  | 0 | 1 => simp [Printer.asked]
  | room + 2 => simpa [Printer.asked] using prints room s

theorem Prints.formatted (prints : printer.Prints calls text) :
    printer.formatted.Prints (calls + 3) text := by
  intro room s
  cases room with
  | zero => simp [Printer.formatted]
  | succ room => simpa [Printer.formatted] using prints.asked room s

end Printer

def Token.printer (t : Token) : Printer := fun _ => .ok t.spelling

theorem Token.prints (t : Token) : t.printer.Prints 0 t.spelling := by
  simp [Printer.Prints, printer, eq_comm]

namespace Expr

/-- The parts are printed from left to right. Only the token of a number is not formatted. -/
def printer : Expr → Printer
  | number t => t.printer.asked
  | group _ e _ => fun room => do
    let inner ← e.printer.formatted room
    return "(" ++ inner ++ ")"
  | binary l op r => fun room => do
    let left ← l.printer.formatted room
    let sign ← op.printer.formatted room
    let right ← r.printer.formatted room
    return left ++ " " ++ sign ++ " " ++ right
  | unary op e => fun room => do
    let sign ← op.printer.formatted room
    let operand ← e.printer.formatted room
    return sign ++ operand

def height : Expr → Nat
  | number _ => 0
  | group _ e _ => e.height + 1
  | binary l _ r => max l.height r.height + 1
  | unary _ e => e.height + 1

def print (e : Expr) : Printer := e.printer.asked

end Expr

def Node.print : Node → Printer
  | .token t => t.printer.asked
  | .expr e => e.print

end LineCalc.Syntax
