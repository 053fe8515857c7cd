import LineCalc.Literal.Escapes
import LineCalc.Text.NameChar

/-!
Tokens of an expression. Reading them ends at the first flaw; a token says on which line it is and
in how many brackets.
-/
namespace LineCalc.Literal

structure WrittenText where
  letters : List Char
  quoted : List Char
  deriving DecidableEq, Repr

inductive Kind where
  | name (cs : List Char)
  | number (number : Number)
  | text (text : WrittenText)
  /-- A sign or a keyword. -/
  | mark (sign : String)
  | lineEnd
  | indent
  | finish
  /-- A flaw that counts wherever it stands. -/
  | flawed (flaw : Flaw)
  /-- A flaw that counts only for what is read up to it. It can lie in a bracket that is opened on
  some line. -/
  | halted (flaw : Flaw) (opened? : Option (Char × Nat))
  deriving DecidableEq, Repr

structure Token where
  kind : Kind
  line : Nat
  depth : Nat
  /-- Whether the end of the text had to be seen to know where the token ends. -/
  seesEnd : Bool
  deriving DecidableEq, Repr

def constants : List String := ["True", "False", "None"]

def keywords : List String :=
  constants ++ ["and", "as", "assert", "async", "await", "break", "class", "continue", "def", "del",
    "elif", "else", "except", "finally", "for", "from", "global", "if", "import", "in", "is",
    "lambda", "nonlocal", "not", "or", "pass", "raise", "return", "try", "while", "with", "yield"]

def Kind.ofWord (cs : List Char) : Kind :=
  let word := String.ofList cs
  if word ∈ keywords then .mark word else .name cs

/-! ### Texts -/

def textLetters : List String := ["", "u", "r", "b", "br", "rb", "f", "fr", "rf"]

def isQuote (c : Char) : Bool := c = '"' || c = '\''

def textStart? (cs : List Char) : Option (List Char × List Char) :=
  let letters := (cs.takeWhile isAsciiLetter).map Char.toLower
  let rest := cs.dropWhile isAsciiLetter
  if rest.head?.any isQuote && textLetters.contains (String.ofList letters) then
    some (letters, rest)
  else none

/-- What follows the closing quote. A line feed ends a short text too early. -/
def afterShortText (quote : Char) : List Char → Option (List Char)
  | [] | ['\\'] => none
  | '\\' :: _ :: r => afterShortText quote r
  | c :: r => if c = quote then some r else if c = '\n' then none else afterShortText quote r

def afterLongText (quote : Char) : List Char → Option (List Char)
  | [] | ['\\'] => none
  | '\\' :: _ :: r => afterLongText quote r
  | c :: r =>
    if c = quote && r.take 2 = [quote, quote] then some (r.drop 2) else afterLongText quote r

def lineFeeds (cs : List Char) : Nat := cs.count '\n'

/-- The last line that a text touches. A line feed at its end begins no further one. -/
def lastLine (line : Nat) (cs : List Char) : Nat := line + lineFeeds cs.dropLast

def breakLine (line : Nat) : List Char → Nat
  | [] | ['\\'] | ['\\', _] => line
  | '\\' :: c :: r => breakLine (if c = '\n' then line + 1 else line) r
  | c :: r => if c = '\n' then line else breakLine line r

def scanText (line : Nat) : List Char → Except Flaw (List Char)
  | quote :: r =>
    if r.take 2 = [quote, quote] then
      match afterLongText quote (r.drop 2) with
      | some rest => .ok rest
      | none => .error (.openLongText (lastLine line r))
    else
      match afterShortText quote r with
      | some rest => .ok rest
      | none => .error (.openText (breakLine line r))
  | [] => .ok []

/-! ### Marks -/

/-- Marks of several characters, those that begin with others first. -/
def longMarks : List String :=
  ["...", "**=", "//=", ">>=", "<<=", "==", "!=", "<=", ">=", "<>", "->", ":=", "**", "//", "<<",
    ">>", "+=", "-=", "*=", "/=", "%=", "&=", "|=", "^=", "@="]

def scanMark (cs : List Char) : String × List Char :=
  match longMarks.find? fun sign => sign.toList.isPrefixOf cs with
  | some sign => (sign, cs.drop sign.length)
  | none => (String.ofList (cs.take 1), cs.drop 1)

def brackets : List (Char × Char) := [('(', ')'), ('[', ']'), ('\x7b', '\x7d')]

def deepest : Nat := 200

/-! ### Lines -/

/-- Where the scan is: the line, the open brackets with their lines, the innermost first, and the
indents of the lines around, the innermost first, each also with a tab counted as one blank. -/
structure Place where
  line : Nat := 1
  opened : List (Char × Nat) := []
  indents : List (Nat × Nat) := []

def Kind.isOpenEnded : Kind → Bool
  | .name _ | .number _ => true
  | .mark sign => sign.length < 3 || keywords.contains sign
  | .text written => written.quoted.length = 2
  | _ => false

def Place.token (place : Place) (kind : Kind) (rest : List Char) : Token :=
  ⟨kind, place.line, place.opened.length, rest.isEmpty && kind.isOpenEnded⟩

def Place.halt (place : Place) (flaw : Flaw) : List Token :=
  [place.token (.halted flaw place.opened.head?) []]

def Place.close (place : Place) (closing : Char) : Except Flaw Place :=
  match place.opened with
  | [] => .error (.unmatched closing)
  | (opening, line) :: outer =>
    if brackets.lookup opening = some closing then .ok { place with opened := outer }
    else .error (.mismatched closing opening (if line = place.line then none else some line))

def isSpace (c : Char) : Bool := c = ' ' || c = '\t' || c = '\x0c'

/-- An indent with one blank more: a tab goes to the next multiple of eight, a form feed back to the
start. -/
def widen (indent : Nat × Nat) (c : Char) : Nat × Nat :=
  if c = '\t' then ((indent.1 / 8 + 1) * 8, indent.2 + 1)
  else if c = '\x0c' then (0, 0)
  else (indent.1 + 1, indent.2 + 1)

def mostIndents : Nat := 99

structure LineStart where
  rest : List Char
  line : Nat
  indent : Nat × Nat

/-- Passes over the blanks of a line and over continued lines. The first continued line that is
indented counts for the indent. -/
def lineStart (line : Nat) (kept? : Option (Nat × Nat)) (indent : Nat × Nat) :
    List Char → Except Flaw LineStart
  | '\\' :: '\n' :: r =>
    if r = [] then .error .unexpectedEnd
    else
      let first := if indent.1 = 0 then none else some (indent.1, indent.1)
      lineStart (line + 1) (kept?.or first) indent r
  | '\\' :: _ => .error .afterContinuation
  | c :: r =>
    if isSpace c then lineStart line kept? (widen indent c) r
    else .ok ⟨c :: r, line, kept?.getD indent⟩
  | [] => .ok ⟨[], line, kept?.getD indent⟩

def Place.indent (place : Place) (width : Nat × Nat) : List Token × Option Place :=
  let kept := place.indents.dropWhile (width.1 < ·.1)
  let top := kept.head?.getD (0, 0)
  let halt := place.halt .invalid
  if top.1 < width.1 && kept.length = place.indents.length then
    if mostIndents ≤ kept.length || width.2 ≤ top.2 then (halt, none)
    else ([place.token .indent []], some { place with indents := width :: kept })
  else if width = top then ([], some { place with indents := kept })
  else (halt, none)

/-! ### The whole -/

def Place.finish (place : Place) : List Token :=
  match place.opened with
  | [] => [place.token .finish []]
  | (opening, _) :: _ => place.halt (.neverClosed opening)

/-- Tokens of the text from the beginning of a line on or from within one. Every round takes a
character or begins a line. -/
def scanFrom : (rounds : Nat) → (isFresh : Bool) → Place → List Char → List Token
  | 0, _, place, _ | _, false, place, [] => place.finish
  | rounds + 1, true, place, cs =>
    match lineStart place.line none (0, 0) cs with
    | .error flaw => place.halt flaw
    | .ok start =>
      let here := { place with line := start.line }
      if start.rest.head?.any fun c => c = '\n' || c = '#' then
        match start.rest.dropWhile (· ≠ '\n') with
        | _ :: r => scanFrom rounds true { here with line := here.line + 1 } r
        | [] => here.finish
      else if place.opened.isEmpty then
        match here.indent start.indent with
        | (tokens, some next) => tokens ++ scanFrom rounds false next start.rest
        | (tokens, none) => tokens
      else scanFrom rounds false here start.rest
  | rounds + 1, false, place, c :: r =>
    if c = '\n' then
      let next := scanFrom rounds true { place with line := place.line + 1 } r
      if place.opened.isEmpty then place.token .lineEnd r :: next else next
    else if isSpace c then scanFrom rounds false place r
    else if c = '#' then scanFrom rounds false place (r.dropWhile (· ≠ '\n'))
    else if c = '\\' then
      match r with
      | ['\n'] => place.halt .unexpectedEnd
      | '\n' :: rest => scanFrom rounds false { place with line := place.line + 1 } rest
      | _ => place.halt .afterContinuation
    else
      match textStart? (c :: r) with
      | some (letters, cs) =>
        match scanText place.line cs with
        | .error flaw => [place.token (.flawed flaw) []]
        | .ok rest =>
          let quoted := cs.take (cs.length - rest.length)
          let next := { place with line := place.line + lineFeeds quoted }
          place.token (.text ⟨letters, quoted⟩) rest :: scanFrom rounds false next rest
      | none =>
        if isNameStart c then
          let name := (c :: r).takeWhile isNameChar
          match Text.nameFault? name with
          | some d => [place.token (.flawed (.badCharacter d)) []]
          | none =>
            let rest := (c :: r).dropWhile isNameChar
            place.token (Kind.ofWord name) rest :: scanFrom rounds false place rest
        else if Text.isAsciiDigit c || (c = '.' && r.head?.any Text.isAsciiDigit) then
          match scanNumber (c :: r) with
          | .error flaw => [place.token (.flawed flaw) []]
          | .ok (number, rest) =>
            place.token (.number number) rest :: scanFrom rounds false place rest
        else if brackets.any fun pair => pair.1 = c then
          if deepest ≤ place.opened.length then [place.token (.flawed .nestedTooDeep) []]
          else
            let next := { place with opened := (c, place.line) :: place.opened }
            next.token (.mark c.toString) r :: scanFrom rounds false next r
        else if brackets.any fun pair => pair.2 = c then
          match place.close c with
          | .error flaw => [place.token (.flawed flaw) []]
          | .ok next => next.token (.mark c.toString) r :: scanFrom rounds false next r
        else if !Text.isPrintable c then [place.token (.flawed (.badCharacter c)) []]
        else
          let (sign, rest) := scanMark (c :: r)
          place.token (.mark sign) rest :: scanFrom rounds false place rest

def scan (cs : List Char) : List Token := scanFrom (2 * cs.length + 2) true {} cs

end LineCalc.Literal
