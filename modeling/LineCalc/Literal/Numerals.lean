import LineCalc.Literal.Flaw
import LineCalc.Text.DecimalDigit

/-!
Numbers in an expression: decimal ones, perhaps with a fraction, a power of ten or a mark of the
imaginary, and whole numbers in other bases.
-/
namespace LineCalc.Literal

def isAsciiLetter (c : Char) : Bool := ('a' ≤ c && c ≤ 'z') || ('A' ≤ c && c ≤ 'Z')

def isNameStart (c : Char) : Bool := isAsciiLetter c || c = '_' || 0x80 ≤ c.toNat

def isNameChar (c : Char) : Bool := isNameStart c || Text.isAsciiDigit c

def isAsciiNameChar (c : Char) : Bool := isNameChar c && c.toNat < 0x80

/-- What follows digits that single underscores may separate, or what follows an underscore that is
not followed by a digit. -/
def afterDigits (isDigit : Char → Bool) : List Char → Except (List Char) (List Char)
  | [] => .ok []
  | ['_'] => .error []
  | '_' :: c :: r => if isDigit c then afterDigits isDigit r else .error (c :: r)
  | c :: r => if isDigit c then afterDigits isDigit r else .ok (c :: r)

/-- Words that may stand directly after a number, whatever follows them. -/
def openFollowers : List String := ["if", "in", "is"]

def closedFollowers : List String := ["and", "else", "for", "or", "not"]

def checkNumberEnd (kind : String) (rest : List Char) : Except Flaw Unit :=
  let isWord (word : String) : Bool := word.toList.isPrefixOf rest
  let isEnded (word : String) : Bool :=
    isWord word && !(rest.drop word.length).head?.any isNameChar
  if openFollowers.any isWord || closedFollowers.any isEnded then .ok ()
  else if rest.head?.any isAsciiNameChar then .error (.badNumber kind)
  else .ok ()

def basedNumber (kind : String) (isDigit : Char → Bool) (cs : List Char) :
    Except Flaw (List Char) :=
  let refuse (rest : List Char) : Flaw :=
    match rest with
    | c :: _ => if kind ≠ "hexadecimal" && Text.isAsciiDigit c then .badDigit c kind
      else .badNumber kind
    | [] => .badNumber kind
  if cs.head?.any fun c => isDigit c || c = '_' then
    match afterDigits isDigit cs with
    | .error rest => .error (refuse rest)
    | .ok rest => do
      if rest.head?.any Text.isAsciiDigit then throw (refuse rest)
      checkNumberEnd kind rest
      return rest
  else .error (refuse cs)

def isHexDigit (c : Char) : Bool :=
  Text.isAsciiDigit c || ('a' ≤ c && c ≤ 'f') || ('A' ≤ c && c ≤ 'F')

def numberEnd (cs : List Char) : Except Flaw (Bool × List Char) :=
  match cs with
  | c :: r =>
    if c = 'j' || c = 'J' then do
      checkNumberEnd "imaginary" r
      return (true, r)
    else do
      checkNumberEnd "decimal" cs
      return (false, cs)
  | [] => .ok (false, [])

def decimalTail (cs : List Char) : Except Flaw (List Char) :=
  (afterDigits Text.isAsciiDigit cs).mapError fun _ => .badNumber "decimal"

def powerAndEnd (cs : List Char) : Except Flaw (Bool × List Char) :=
  match cs with
  | c :: r =>
    if c = 'e' || c = 'E' then
      match r with
      | s :: d :: r' =>
        if s = '+' || s = '-' then
          if Text.isAsciiDigit d then do numberEnd (← decimalTail r')
          else .error (.badNumber "decimal")
        else if Text.isAsciiDigit s then do numberEnd (← decimalTail (d :: r'))
        else do
          checkNumberEnd "decimal" cs
          return (false, cs)
      | [d] => if Text.isAsciiDigit d then .ok (false, []) else .error (.badNumber "decimal")
      | [] => .error (.badNumber "decimal")
    else numberEnd cs
  | [] => .ok (false, [])

def fractionAndEnd (cs : List Char) : Except Flaw (Bool × List Char) := do
  if cs.head?.any Text.isAsciiDigit then powerAndEnd (← decimalTail cs) else powerAndEnd cs

def decimalNumber (cs : List Char) : Except Flaw (Bool × List Char) := do
  let rest ← decimalTail cs
  let whole := cs.take (cs.length - rest.length)
  match rest with
  | '.' :: r => fractionAndEnd r
  | c :: _ =>
    if c = 'e' || c = 'E' || c = 'j' || c = 'J' then powerAndEnd rest
    else plainEnd whole rest
  | [] => plainEnd whole rest
where
  /-- Only zero itself begins with a zero. -/
  plainEnd (whole rest : List Char) : Except Flaw (Bool × List Char) :=
    if whole.head? = some '0' && whole.any (fun c => c ≠ '0' && c ≠ '_') then .error .leadingZeros
    else numberEnd rest

def afterNumber (cs : List Char) : Except Flaw (Bool × List Char) :=
  let based (kind : String) (isDigit : Char → Bool) (r : List Char) :=
    (basedNumber kind isDigit r).map fun rest => (false, rest)
  match cs with
  | '.' :: r => fractionAndEnd r
  | '0' :: c :: r =>
    if c = 'x' || c = 'X' then based "hexadecimal" isHexDigit r
    else if c = 'o' || c = 'O' then based "octal" (fun c => '0' ≤ c && c ≤ '7') r
    else if c = 'b' || c = 'B' then based "binary" (fun c => c = '0' || c = '1') r
    else decimalNumber cs
  | _ => decimalNumber cs

/-! ### What a number is -/

structure Number where
  isImaginary : Bool
  /-- How many digits a whole decimal number has, without zeros in front of it. -/
  digits : Nat
  /-- Whether it is a whole number beyond the greatest float. -/
  isHuge : Bool
  deriving DecidableEq, Repr

/-- Whole numbers from here on round to no float. -/
def floatBound : Nat := Nat.pow 2 1024 - Nat.pow 2 970

def wholeValue (base : Nat) (digits : List Char) : Nat :=
  digits.foldl (fun n c => base * n + digit c) 0
where
  digit (c : Char) : Nat :=
    if Text.isAsciiDigit c then c.toNat - '0'.toNat else c.toLower.toNat - 'a'.toNat + 10

def bases : List (Char × Nat) := [('x', 16), ('o', 8), ('b', 2)]

def longestNumber : Nat := 4300

def Number.ofText (isImaginary : Bool) (text : List Char) : Number :=
  let digits := text.filter (· ≠ '_')
  match digits with
  | '0' :: mark :: r =>
    match bases.lookup mark.toLower with
    | some base => ⟨false, 0, floatBound ≤ wholeValue base r⟩
    | none => ⟨isImaginary, 0, false⟩
  | _ =>
    let isWhole := digits.all Text.isAsciiDigit && digits ≠ ['0']
    if isWhole then
      let isHuge := digits.length ≤ longestNumber && floatBound ≤ wholeValue 10 digits
      ⟨isImaginary, digits.length, isHuge⟩
    else ⟨isImaginary, 0, false⟩

def scanNumber (cs : List Char) : Except Flaw (Number × List Char) := do
  let (isImaginary, rest) ← afterNumber cs
  return (Number.ofText isImaginary (cs.take (cs.length - rest.length)), rest)

end LineCalc.Literal
