import LineCalc.Literal.Numerals
import LineCalc.Text.CharName.Lookup

/-!
Escapes in texts. All characters but ASCII are first written as escapes of ten characters, and so
are backslashes in front of them, in six characters.
-/
namespace LineCalc.Literal

def asciiText : List Char → List Char
  | '\\' :: c :: r =>
    if c.toNat < 0x80 then '\\' :: c :: asciiText r else "\\u005c".toList ++ code c ++ asciiText r
  | ['\\'] => "\\u005c".toList
  | c :: r => if c.toNat < 0x80 then c :: asciiText r else code c ++ asciiText r
  | [] => []
where
  code (c : Char) : List Char := '\\' :: 'U' :: Text.hex 8 c.toNat

def escapeDigits : List (Char × Nat) := [('x', 2), ('u', 4), ('U', 8)]

def lastCodePoint : Nat := 0x10ffff

def codeFlaw? (position : Nat) (letter : Char) (places : Nat) (r : List Char) : Option Flaw :=
  let digits := (r.take places).takeWhile isHexDigit
  if digits.length < places then
    let form := String.ofList (letter :: List.replicate places 'X')
    some (.badEscape position (position + 1 + digits.length) ("truncated \\" ++ form ++ " escape"))
  else if lastCodePoint < wholeValue 16 digits then
    some (.badEscape position (position + 1 + places) "illegal Unicode character")
  else none

def afterName (position : Nat) (r : List Char) : Except Flaw (List Char) :=
  let malformed (last : Nat) : Flaw := .badEscape position last "malformed \\N character escape"
  match r with
  | '{' :: r =>
    let name := r.takeWhile (· ≠ '\x7d')
    let last := position + 2 + name.length
    match r.dropWhile (· ≠ '\x7d') with
    | [] => .error (malformed last)
    | _ :: rest =>
      if name = [] then .error (malformed last)
      else if Text.isCharName name then .ok rest
      else .error (.badEscape position (last + 1) "unknown Unicode character name")
  | _ => .error (malformed (position + 1))

def escapeFlawFrom? (size : Nat) : (rounds : Nat) → List Char → Option Flaw
  | 0, _ => none
  | rounds + 1, cs =>
    let position := size - cs.length
    match cs with
    | '\\' :: 'N' :: r =>
      match afterName position r with
      | .error flaw => some flaw
      | .ok rest => escapeFlawFrom? size rounds rest
    | '\\' :: c :: r =>
      let found := do codeFlaw? position c (← escapeDigits.lookup c) r
      found.or (escapeFlawFrom? size rounds r)
    | _ :: r => escapeFlawFrom? size rounds r
    | [] => none

def escapeFlaw? (cs : List Char) : Option Flaw :=
  let text := asciiText cs
  escapeFlawFrom? text.length (text.length + 1) text

def byteEscapeFlaw? (position : Nat) : List Char → Option Flaw
  | '\\' :: 'x' :: r =>
    if ((r.take 2).takeWhile isHexDigit).length < 2 then some (.badByteEscape position)
    else byteEscapeFlaw? (position + 2) r
  | '\\' :: _ :: r => byteEscapeFlaw? (position + 2) r
  | _ :: r => byteEscapeFlaw? (position + 1) r
  | [] => none

end LineCalc.Literal
