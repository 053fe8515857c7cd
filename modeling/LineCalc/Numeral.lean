import LineCalc.Text.DecimalDigit
import LineCalc.Word

/-!
Integers written in decimal ASCII digits: blanks around, one sign, single underscores between digits.
A numeral of more than 4300 digits is refused; leading zeros count, underscores do not.
-/
namespace LineCalc.Numeral

def maxDigits : Nat := 4300

def tooLongMessage (digits : Nat) : String :=
  "Exceeds the limit (4300 digits) for integer string conversion: value has " ++
    toString digits ++ " digits; use sys.set_int_max_str_digits() to increase the limit"

def isSpace (c : Char) : Bool :=
  c = ' ' || c = '\t' || c = '\n' || c = '\r' || c = '\x0b' || c = '\x0c'

def trim (cs : List Char) : List Char :=
  ((cs.dropWhile isSpace).reverse.dropWhile isSpace).reverse

/-- The digits of a numeral whose digits may be separated by single underscores. -/
def digits? : List Char → Option (List Char)
  | [] => none
  | [c] => if Text.isAsciiDigit c then some [c] else none
  | c :: '_' :: r => if Text.isAsciiDigit c then (digits? r).map (c :: ·) else none
  | c :: d :: r => if Text.isAsciiDigit c then (digits? (d :: r)).map (c :: ·) else none

def digitValue (c : Char) : Nat := c.toNat - '0'.toNat

def value (digits : List Char) : Nat := digits.foldl (fun n c => 10 * n + digitValue c) 0

def magnitude? (cs : List Char) : Option Nat :=
  (digits? cs).bind fun digits => if digits.length ≤ maxDigits then some (value digits) else none

def signed? : List Char → Option Int
  | '-' :: r => (magnitude? r).map fun n => -(n : Int)
  | '+' :: r => (magnitude? r).map fun n => (n : Int)
  | cs => (magnitude? cs).map fun n => (n : Int)

def int? (s : String) : Option Int := signed? (trim s.toList)

def int32? (s : String) : Option Int := (int? s).filter fun n => decide (Word.InRange n)

end LineCalc.Numeral
