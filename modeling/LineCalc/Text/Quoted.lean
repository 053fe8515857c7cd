import LineCalc.Text.Printable

/-!
Texts in quotes. A single quote encloses the text unless it holds single quotes and no double quote;
the enclosing quote and the backslash are escaped, so are line breaks, tabs and all that is not
printable.
-/
namespace LineCalc.Text

def hexDigit (n : Nat) : Char := (Nat.digitChar n)

def hex : (places : Nat) → Nat → List Char
  | 0, _ => []
  | places + 1, n => hex places (n / 16) ++ [hexDigit (n % 16)]

/-- An escape by code point, in the shortest of the widths two, four and eight. -/
def escapeCode (n : Nat) : List Char :=
  if n < 0x100 then '\\' :: 'x' :: hex 2 n
  else if n < 0x10000 then '\\' :: 'u' :: hex 4 n
  else '\\' :: 'U' :: hex 8 n

def escape (quote c : Char) : List Char :=
  if c = '\\' || c = quote then ['\\', c]
  else if c = '\n' then ['\\', 'n']
  else if c = '\r' then ['\\', 'r']
  else if c = '\t' then ['\\', 't']
  else if isPrintable c then [c]
  else escapeCode c.toNat

def quoteFor (s : String) : Char :=
  if s.toList.contains '\'' && !s.toList.contains '"' then '"' else '\''

def quoted (s : String) : String :=
  String.ofList ([quoteFor s] ++ s.toList.flatMap (escape (quoteFor s)) ++ [quoteFor s])

def quotedList (texts : List String) : String :=
  "[" ++ ", ".intercalate (texts.map quoted) ++ "]"

end LineCalc.Text
