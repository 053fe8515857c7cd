import LineCalc.Literal.Formatted
import LineCalc.Literal.Grammar

/-!
Expressions are read twice if need be: first as they should be and then with hints for likely
mistakes. Expressions in texts are read in the same way, each in parentheses.
-/
namespace LineCalc.Literal

/-! ### Texts -/

def unquoted : List Char → List Char
  | q :: r =>
    if r.take 2 = [q, q] && 2 < r.length then (r.drop 2).take (r.length - 5) else r.dropLast
  | [] => []

namespace WrittenText

def isRaw (text : WrittenText) : Bool := text.letters.contains 'r'

def isBytes (text : WrittenText) : Bool := text.letters.contains 'b'

def isFormatted (text : WrittenText) : Bool := text.letters.contains 'f'

def plainFlaw? (text : WrittenText) : Option Flaw :=
  let body := unquoted text.quoted
  if text.isFormatted then none
  else if text.isBytes then
    if body.any fun c => 0x80 ≤ c.toNat then some .nonAsciiBytes
    else if text.isRaw then none
    else byteEscapeFlaw? 0 body
  else if text.isRaw then none
  else escapeFlaw? body

end WrittenText

/-- The flaw of a row of texts: of all of them, or of none, the characters are bytes. -/
def textsFlaw? (flaw? : List Char → Option Flaw) (own : Flaw → Flaw) (isBytes : Bool) :
    List WrittenText → Option Flaw
  | [] => none
  | text :: rest =>
    let found :=
      match text.plainFlaw? with
      | some flaw => some (own flaw)
      | none =>
        if text.isBytes ≠ isBytes then some (own .mixedTexts)
        else if text.isFormatted then
          (FormatReader.mk text.isRaw flaw? own).formatFlaw? (unquoted text.quoted)
        else none
    found.or (textsFlaw? flaw? own isBytes rest)

def joinTexts (flaw? : List Char → Option Flaw) (own : Flaw → Flaw) (texts : List WrittenText) :
    Except Flaw Expression :=
  match textsFlaw? flaw? own (texts.head?.any (·.isBytes)) texts with
  | some flaw => .error flaw
  | none => .ok (if texts.any (·.isFormatted) then .formatted else .text)

/-! ### Wholes -/

namespace Source

/-- A flaw of the tokens that have not been looked at comes before other flaws. One that counts only
for what is read can still tell that a bracket of an earlier line is open. -/
def settle (source : Source) (reached : Nat) (flaw : Flaw) : Flaw :=
  let line := (source.tokens[reached - 1]?.map (·.line)).getD 0
  let found := (source.tokens.toList.drop reached).findSome? fun token =>
    match token.kind with
    | .flawed later => some later
    | .halted _ (some (opening, openingLine)) =>
      if openingLine < line then some (source.own (.neverClosed opening)) else none
    | _ => none
  found.getD flaw

/-- A flaw that reading finds. Nothing is looked for beyond it when the end has been seen. -/
def settleFound (source : Source) (reached : Nat) (flaw : Flaw) : Flaw :=
  if source.tokens[reached - 1]?.any (·.seesEnd) then flaw else source.settle reached flaw

/-- Reads from the first token on, the second time with hints. -/
def read (source : Source) (whole : Reader Expression) : Except Flaw Expression :=
  match whole source false 0 {} with
  | (.read value _, _) => .ok value
  | (.flaw flaw, memory) => .error (source.settleFound memory.reached flaw)
  | (_, memory) =>
    let last := memory.reached - 1
    match whole source true 0 {} with
    | (.flaw flaw, memory) => .error (source.settleFound memory.reached flaw)
    | (_, memory) =>
      if source.tokens[last]?.any (·.kind = .indent) then
        .error (source.own .unexpectedIndent)
      else .error (source.settle memory.reached (source.own .invalid))

end Source

def depthFor (tokens : Nat) : Nat := 64 * (tokens + 2)

def wholeExpression (depth : Nat) : Reader Expression := do
  let value ← Grammar.expressions (Grammar.reader depth)
  let _ ← Reader.many (Reader.kind .lineEnd)
  Reader.kind .finish
  return value

def partFlaw? : (level : Nat) → List Char → Option Flaw
  | 0, _ => none
  | level + 1, part =>
    let tokens := (scan ('(' :: part ++ [')', '\n'])).toArray
    let source : Source := ⟨tokens, joinTexts (partFlaw? level) .inText, .inText⟩
    match source.read (Grammar.starExpressions (Grammar.reader (depthFor tokens.size))) with
    | .ok _ => none
    | .error flaw => some flaw

def joinLineEnds : List Char → List Char
  | '\r' :: '\n' :: r => '\n' :: joinLineEnds r
  | '\r' :: r => '\n' :: joinLineEnds r
  | c :: r => c :: joinLineEnds r
  | [] => []

def read (cs : List Char) : Except Flaw Expression :=
  let text := joinLineEnds (cs.dropWhile fun c => c = ' ' || c = '\t')
  let tokens := (scan text).toArray
  let source : Source := ⟨tokens, joinTexts (partFlaw? text.length) id, id⟩
  source.read (wholeExpression (depthFor tokens.size))

def checkLiteral (cs : List Char) : Except (Flaw ⊕ Expression.Refusal) Unit :=
  if cs.contains '\x00' then .error (.inr .zeros)
  else
    match read cs with
    | .error flaw => .error (.inl flaw)
    | .ok expression => expression.check.mapError .inr

end LineCalc.Literal
