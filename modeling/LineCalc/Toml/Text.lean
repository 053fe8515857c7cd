/-!
The leaves of a TOML document: blanks, comments, keys and quoted texts. Each reader takes characters
off the front of what remains.
-/
namespace LineCalc.Toml

inductive Error where
  | malformed
  /-- A decimal integer with too many digits. -/
  | tooManyDigits (digits : Nat)
  deriving DecidableEq, Repr

abbrev Part (α : Type) := α × List Char

abbrev Key := List String

def isSpace (c : Char) : Bool := c = ' ' || c = '\t'

def skipSpace (cs : List Char) : List Char := cs.dropWhile isSpace

def skipSpaceAndLines (cs : List Char) : List Char := cs.dropWhile fun c => isSpace c || c = '\n'

/-- Control characters other than the tab stand nowhere in a document, line ends apart. -/
def isIllegal (c : Char) : Bool := (c < ' ' && c ≠ '\t') || c = '\x7f'

def skipComment (cs : List Char) : Except Error (List Char) :=
  match cs with
  | '#' :: r =>
    if (r.takeWhile (· ≠ '\n')).any isIllegal then .error .malformed
    else .ok (r.dropWhile (· ≠ '\n'))
  | _ => .ok cs

def hexValue? (c : Char) : Option Nat :=
  if '0' ≤ c && c ≤ '9' then some (c.toNat - '0'.toNat)
  else if 'a' ≤ c && c ≤ 'f' then some (c.toNat - 'a'.toNat + 10)
  else if 'A' ≤ c && c ≤ 'F' then some (c.toNat - 'A'.toNat + 10)
  else none

def codePoint (places : Nat) (cs : List Char) : Except Error (Part Char) := do
  let digits := (cs.take places).filterMap hexValue?
  let code := digits.foldl (fun n d => 16 * n + d) 0
  if digits.length = places && (code < 0xd800 || (0xdfff < code && code < 0x110000)) then
    .ok (Char.ofNat code, cs.drop places)
  else .error .malformed

/-- What follows a backslash. A line may end there, with the blanks before the next text. -/
def escaped (manyLines : Bool) (cs : List Char) : Except Error (Part (List Char)) :=
  match cs with
  | 'b' :: r => .ok (['\x08'], r)
  | 't' :: r => .ok (['\t'], r)
  | 'n' :: r => .ok (['\n'], r)
  | 'f' :: r => .ok (['\x0c'], r)
  | 'r' :: r => .ok (['\r'], r)
  | '\x22' :: r => .ok (['\x22'], r)
  | '\\' :: r => .ok (['\\'], r)
  | 'u' :: r => (codePoint 4 r).map fun (c, r) => ([c], r)
  | 'U' :: r => (codePoint 8 r).map fun (c, r) => ([c], r)
  | c :: _ =>
    if manyLines && (isSpace c || c = '\n') then
      match skipSpace cs with
      | [] => .ok ([], [])
      | '\n' :: r => .ok ([], skipSpaceAndLines r)
      | _ => .error .malformed
    else .error .malformed
  | [] => .error .malformed

/-- The rest of a text in double quotes. Every round takes at least one character, so as many rounds
as there are characters are enough. -/
def basicRest (manyLines : Bool) : (rounds : Nat) → List Char → Except Error (Part (List Char))
  | 0, _ => .error .malformed
  | _, [] => .error .malformed
  | rounds + 1, '\x22' :: r =>
    if !manyLines then .ok ([], r)
    else
      match r with
      | '\x22' :: '\x22' :: after => .ok ([], after)
      | _ => (basicRest manyLines rounds r).map fun (text, rest) => ('\x22' :: text, rest)
  | rounds + 1, '\\' :: r => do
    let (chars, r) ← escaped manyLines r
    let (text, rest) ← basicRest manyLines rounds r
    return (chars ++ text, rest)
  | rounds + 1, c :: r =>
    if isIllegal c && !(manyLines && c = '\n') then .error .malformed
    else (basicRest manyLines rounds r).map fun (text, rest) => (c :: text, rest)

def basicText (cs : List Char) : Except Error (Part String) :=
  (basicRest false (cs.length + 1) cs).map fun (text, rest) => (String.ofList text, rest)

def literalText (cs : List Char) : Except Error (Part String) :=
  let text := cs.takeWhile (· ≠ '\x27')
  match cs.dropWhile (· ≠ '\x27') with
  | _ :: rest => if text.any isIllegal then .error .malformed else .ok (String.ofList text, rest)
  | [] => .error .malformed

def literalLines : List Char → Except Error (Part (List Char))
  | [] => .error .malformed
  | '\x27' :: '\x27' :: '\x27' :: rest => .ok ([], rest)
  | c :: r =>
    if isIllegal c && c ≠ '\n' then .error .malformed
    else (literalLines r).map fun (text, rest) => (c :: text, rest)

def dropFirstLineEnd : List Char → List Char
  | '\n' :: r => r
  | cs => cs

/-- Up to two more quotes before the closing three belong to the text. -/
def withExtraQuotes (quote : Char) (text rest : List Char) : String × List Char :=
  let extra := (rest.take 2).takeWhile (· = quote)
  (String.ofList (text ++ extra), rest.drop extra.length)

def basicLines (cs : List Char) : Except Error (Part String) :=
  let body := dropFirstLineEnd cs
  (basicRest true (body.length + 1) body).map fun (text, rest) => withExtraQuotes '\x22' text rest

def literalLinesText (cs : List Char) : Except Error (Part String) :=
  (literalLines (dropFirstLineEnd cs)).map fun (text, rest) => withExtraQuotes '\x27' text rest

def isBareKeyChar (c : Char) : Bool :=
  ('a' ≤ c && c ≤ 'z') || ('A' ≤ c && c ≤ 'Z') || ('0' ≤ c && c ≤ '9') || c = '-' || c = '_'

def keyPart (cs : List Char) : Except Error (Part String) :=
  match cs with
  | '\x27' :: r => literalText r
  | '\x22' :: r => basicText r
  | c :: _ =>
    if isBareKeyChar c then
      .ok (String.ofList (cs.takeWhile isBareKeyChar), cs.dropWhile isBareKeyChar)
    else .error .malformed
  | [] => .error .malformed

def keyParts : (rounds : Nat) → List Char → Except Error (Part Key)
  | 0, _ => .error .malformed
  | rounds + 1, cs => do
    let (part, r) ← keyPart cs
    match skipSpace r with
    | '.' :: r =>
      let (parts, rest) ← keyParts rounds (skipSpace r)
      return (part :: parts, rest)
    | rest => return ([part], rest)

def key (cs : List Char) : Except Error (Part Key) := keyParts (cs.length + 1) cs

end LineCalc.Toml
