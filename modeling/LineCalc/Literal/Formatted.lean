import LineCalc.Literal.Escapes
import LineCalc.Literal.Token

/-!
Texts that hold expressions in braces. An expression can be followed by an equality sign, by a mark
with a letter that says how the value is shown, and by a format that holds expressions again.
-/
namespace LineCalc.Literal

/-- A stretch of text before an expression. It can end at a brace that is written twice. -/
structure Stretch where
  text : List Char
  rest : List Char
  isDoubled : Bool

def isBrace (c : Char) : Bool := c = '\x7b' || c = '\x7d'

def stretchTo (isFormat : Bool) (text : List Char) (brace : Char) (r : List Char) :
    Except FormatFlaw Stretch :=
  if isFormat then .ok ⟨text.reverse, brace :: r, false⟩
  else if r.head? = some brace then .ok ⟨(brace :: text).reverse, r.tail, true⟩
  else if brace = '\x7d' then .error .singleBrace
  else .ok ⟨text.reverse, brace :: r, false⟩

/-- Where a stretch is in an escape: after the backslash, after the letter of an escape by name, or
in the braces of one. -/
inductive EscapeState where
  | outside
  | begun
  | lettered
  | named
  deriving DecidableEq, Repr

/-- The stretch that goes on after `text`, which is kept the last character first. Braces of an
escape by name belong to it. -/
def stretchFrom (isRaw isFormat : Bool) (state : EscapeState) (text : List Char) :
    List Char → Except FormatFlaw Stretch
  | [] => .ok ⟨text.reverse, [], false⟩
  | c :: r =>
    let goOn (next : EscapeState) := stretchFrom isRaw isFormat next (c :: text) r
    match state with
    | .outside =>
      if c = '\\' && !isRaw then goOn .begun
      else if isBrace c then stretchTo isFormat text c r
      else goOn .outside
    | .begun =>
      if c = 'N' then goOn .lettered
      else if isBrace c then stretchTo isFormat text c r
      else goOn .outside
    | .lettered => goOn (if c = '\x7b' then .named else .outside)
    | .named => goOn (if c = '\x7d' then .outside else .named)

/-- Where the scan of an expression in braces is: in a text with its quote and whether it is a long
one, and in which brackets, the innermost first. -/
structure PartState where
  quote? : Option (Char × Bool) := none
  opened : List Char := []

def endSigns : List Char := ['!', ':', '\x7d', '=', '<', '>']

def partFrom (state : PartState) (part : List Char) :
    List Char → Except FormatFlaw (List Char × List Char)
  | [] =>
    match state.quote?, state.opened with
    | some _, _ => .error .openText
    | none, opening :: _ => .error (.unmatched opening)
    | none, [] => .error .braceExpected
  | c :: r =>
    if c = '\\' then .error .backslash
    else
      let isTriple := r.take 2 = [c, c]
      match state.quote? with
      | some (quote, isLong) =>
        if c = quote && isLong && isTriple then
          partFrom { state with quote? := none } (c :: c :: c :: part) (r.drop 2)
        else if c = quote && !isLong then partFrom { state with quote? := none } (c :: part) r
        else partFrom state (c :: part) r
      | none =>
        if isQuote c then
          let next := { state with quote? := some (c, isTriple) }
          if isTriple then partFrom next (c :: c :: c :: part) (r.drop 2)
          else partFrom next (c :: part) r
        else if brackets.any fun pair => pair.1 = c then
          if deepest ≤ state.opened.length then .error .manyBrackets
          else partFrom { state with opened := c :: state.opened } (c :: part) r
        else if c = '#' then .error .comment
        else if state.opened.isEmpty && endSigns.contains c then
          if r.head? = some '=' && ['!', '=', '<', '>'].contains c then
            partFrom state ('=' :: c :: part) (r.drop 1)
          else if c = '<' || c = '>' then partFrom state (c :: part) r
          else .ok (part.reverse, c :: r)
        else if brackets.any fun pair => pair.2 = c then
          match state.opened with
          | [] => .error (.unmatched c)
          | opening :: outer =>
            if brackets.lookup opening = some c then
              partFrom { state with opened := outer } (c :: part) r
            else .error (.mismatched c opening)
        else partFrom state (c :: part) r
termination_by cs => cs.length
decreasing_by all_goals grind

def isConversion (c : Char) : Bool := c = 's' || c = 'r' || c = 'a'

def isPartBlank (c : Char) : Bool := isSpace c || c = '\n'

def afterEquality (rest : List Char) : Except FormatFlaw (List Char) :=
  match rest with
  | '=' :: r =>
    match r.dropWhile fun c => isPartBlank c || c = '\r' || c = '\x0b' with
    | [] => .error .braceExpected
    | next => .ok next
  | _ => .ok rest

def afterConversion (rest : List Char) : Except FormatFlaw (List Char) :=
  match rest with
  | ['!'] => .error .braceExpected
  | '!' :: c :: r => if isConversion c then .ok r else .error .conversion
  | _ => .ok rest

structure FormatReader where
  isRaw : Bool
  flaw? : List Char → Option Flaw
  own : Flaw → Flaw

def deepestFormat : Nat := 2

namespace FormatReader

def lift {α : Type} (reader : FormatReader) (result : Except FormatFlaw α) : Except Flaw α :=
  result.mapError (reader.own ∘ .format)

def checkFlaw (flaw? : Option Flaw) : Except Flaw Unit :=
  match flaw? with
  | some flaw => .error flaw
  | none => .ok ()

def checkPart (reader : FormatReader) (part rest : List Char) : Except Flaw Unit :=
  if part.all isPartBlank then
    reader.lift (.error (match rest.head? with
      | some '}' | none => .nothing
      | some sign => .nothingBefore sign))
  else checkFlaw (reader.flaw? part)

/-- Reads stretches and expressions. What is left of a format begins with the brace that closes the
expression around it. -/
def read (reader : FormatReader) : (rounds level : Nat) → List Char → Except Flaw (List Char)
  | 0, _, cs => .ok cs
  | rounds + 1, level, cs => do
    let stretch ← reader.lift (stretchFrom reader.isRaw (0 < level) .outside [] cs)
    if !reader.isRaw then checkFlaw ((escapeFlaw? stretch.text).map reader.own)
    if stretch.isDoubled then read reader rounds level stretch.rest
    else
      match stretch.rest with
      | '{' :: r =>
        if deepestFormat ≤ level then reader.lift (.error .nestedTooDeep)
        let (part, rest) ← reader.lift (partFrom {} [] r)
        reader.checkPart part rest
        let rest ← reader.lift (afterEquality rest)
        let rest ← reader.lift (afterConversion rest)
        let rest ← match rest with
          | [':'] => reader.lift (.error .braceExpected)
          | ':' :: format => read reader rounds (level + 1) format
          | _ => pure rest
        match rest with
        | '}' :: r => read reader rounds level r
        | _ => reader.lift (.error .braceExpected)
      | rest => return rest

def formatFlaw? (reader : FormatReader) (text : List Char) : Option Flaw :=
  match reader.read (text.length + 1) 0 text with
  | .ok _ => none
  | .error flaw => some flaw

end FormatReader
end LineCalc.Literal
