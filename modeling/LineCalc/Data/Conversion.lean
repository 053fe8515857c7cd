import LineCalc.Data.Problem
import LineCalc.Data.Value
import LineCalc.Numeral

/-!
Lenient readings of data values as texts, truth values and integers.
-/
namespace LineCalc.Data

def readText : Data → Except Complaint String
  | text s => .ok s
  | _ => .error .notText

def falseWords : List String := ["0", "off", "f", "false", "n", "no"]
def trueWords : List String := ["1", "on", "t", "true", "y", "yes"]

def asciiLower (c : Char) : Char :=
  if 'A' ≤ c && c ≤ 'Z' then Char.ofNat (c.toNat + 32) else c

def boolWord? (s : String) : Option Bool :=
  let word := String.ofList (s.toList.map asciiLower)
  if word ∈ trueWords then some true else if word ∈ falseWords then some false else none

def isWord (n : Int) : Bool := -9223372036854775808 ≤ n && n ≤ 9223372036854775807

/-- A number too large for a word is taken for something else than a truth value. -/
def boolOfInt (n : Int) : Except Complaint Bool :=
  if n = 0 then .ok false
  else if n = 1 then .ok true
  else if isWord n then .error .boolSyntax
  else .error .notBool

def boolOfFloat (x : Binary64) : Except Complaint Bool :=
  match x.whole? with
  | some n => if n = -9223372036854775808 then .error .notBool else boolOfInt n
  | none => .error .notBool

def readBool : Data → Except Complaint Bool
  | bool b => .ok b
  | int n => boolOfInt n
  | float x => boolOfFloat x
  | text s =>
    match boolWord? s with
    | some b => .ok b
    | none => .error .boolSyntax
  | _ => .error .notBool

def isOuterSpace (c : Char) : Bool :=
  Numeral.isSpace c || c = '\x85' || c = '\u00a0' || c = '\u1680' || c = '\u2028' || c = '\u2029' ||
    c = '\u202f' || c = '\u205f' || c = '\u3000' || ('\u2000' ≤ c && c ≤ '\u200a')

def trimOuter (cs : List Char) : List Char :=
  ((cs.dropWhile isOuterSpace).reverse.dropWhile isOuterSpace).reverse

def dropPlus? : List Char → Option (List Char)
  | ['+'] => none
  | '+' :: '-' :: _ => none
  | '+' :: r => some r
  | cs => some cs

def dropZeroFraction (cs : List Char) : List Char :=
  match cs.dropWhile (· ≠ '.') with
  | '.' :: c :: r => if (c :: r).all (· = '0') then cs.takeWhile (· ≠ '.') else cs
  | _ => cs

/-- What follows a zero: of zeros and underscores only the last counts, if nothing else comes. -/
def afterZero (last : Char) : List Char → Option (List Char)
  | [] => some [last]
  | c :: r =>
    if c = '0' || c = '_' then afterZero c r
    else if Text.isAsciiDigit c || c = '-' || c = '.' then some (c :: r)
    else none

def dropZeros? : List Char → Option (List Char)
  | [] => none
  | c :: r =>
    if c = '0' then afterZero c r
    else if Text.isAsciiDigit c || c = '-' then some (c :: r)
    else none

def hasPair (c : Char) : List Char → Bool
  | a :: b :: r => (a = c && b = c) || hasPair c (b :: r)
  | _ => false

/-- Single underscores inside are left out; others stay, and spoil the number. -/
def dropUnderscores (cs : List Char) : List Char :=
  if cs.head? = some '_' || cs.getLast? = some '_' || hasPair '_' cs then cs
  else cs.filter (· ≠ '_')

def unsignedInt (cs : List Char) (length : Nat) : Except Complaint Nat :=
  let digits := cs.takeWhile Text.isAsciiDigit
  if Numeral.maxDigits < length + digits.length then .error .intTooLong
  else if digits = [] || digits.length < cs.length then .error .intSyntax
  else if digits.head? = some '0' && 1 < digits.length then .error .intSyntax
  else .ok (Numeral.value digits)

def plainInt : List Char → Except Complaint Int
  | '-' :: r => (unsignedInt r 1).map fun n => -(n : Int)
  | cs => (unsignedInt cs 0).map fun n => (n : Int)

def plainForm? (s : String) : Option (List Char) := do
  let unmarked ← dropPlus? (trimOuter s.toList)
  match dropZeroFraction unmarked with
  | '-' :: r => return '-' :: dropUnderscores (← dropZeros? r)
  | cs => return dropUnderscores (← dropZeros? cs)

def intOfText (s : String) : Except Complaint Int :=
  match plainForm? s with
  | some cs => plainInt cs
  | none => .error .intSyntax

def intOfFloat (x : Binary64) : Except Complaint Int :=
  match x.whole? with
  | some n =>
    if isWord n && n ≠ -9223372036854775808 then .ok n else .error .intTooLong
  | none => .error (if x.isFinite then .intFromFraction else .notFinite)

def readInt : Data → Except Complaint Int
  | int n => .ok n
  | bool b => .ok (if b then 1 else 0)
  | float x => intOfFloat x
  | text s => intOfText s
  | _ => .error .notInt

end LineCalc.Data
