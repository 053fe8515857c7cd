import LineCalc.Numeral
import LineCalc.Syntax.Diagnostic
import LineCalc.Syntax.Token
import LineCalc.Text.Blank

/-!
Lexing one line. Digits and blanks come in longest runs, every other character alone; the end of the
line is a token that can be read any number of times.
-/
namespace LineCalc.Syntax

/-- What is left of the line and the offset of its first character. -/
structure Lexer where
  rest : List Char
  position : Nat := 0

namespace Lexer

def ofText (s : String) : Lexer := { rest := s.toList }

structure Step where
  token : Token
  report : Option Diagnostic := none
  after : Lexer

def operatorKind? : Char → Option Kind
  | '+' => some .plus
  | '-' => some .minus
  | '*' => some .star
  | '/' => some .slash
  | '(' => some .openParenthesis
  | ')' => some .closeParenthesis
  | _ => none

def numberStep (position : Nat) (run rest : List Char) : Step :=
  let text := String.ofList run
  let value := Numeral.int32? text
  { token := ⟨.number, position, some text, value⟩
    report := if value.isNone then some (.invalidNumber text) else none
    after := ⟨rest, position + run.length⟩ }

def blankStep (position : Nat) (run rest : List Char) : Step :=
  { token := ⟨.whiteSpace, position, some (String.ofList run), none⟩
    after := ⟨rest, position + run.length⟩ }

def singleStep (position : Nat) (c : Char) (rest : List Char) : Step :=
  match operatorKind? c with
  | some kind =>
    { token := ⟨kind, position, some c.toString, none⟩, after := ⟨rest, position + 1⟩ }
  | none =>
    { token := ⟨.bad, position, some c.toString, none⟩
      report := some (.badCharacter c.toString)
      after := ⟨rest, position + 1⟩ }

def next (lexer : Lexer) : Step :=
  match lexer.rest with
  | [] => { token := ⟨.endOfFile, lexer.position, some "", none⟩, after := lexer }
  | c :: cs =>
    if Text.isDecimalDigit c then
      numberStep lexer.position (c :: cs.takeWhile Text.isDecimalDigit)
        (cs.dropWhile Text.isDecimalDigit)
    else if Text.isBlank c then
      blankStep lexer.position (c :: cs.takeWhile Text.isBlank) (cs.dropWhile Text.isBlank)
    else singleStep lexer.position c cs

theorem length_dropWhile_le (p : Char → Bool) (cs : List Char) :
    (cs.dropWhile p).length ≤ cs.length := (List.dropWhile_sublist p).length_le

theorem next_shorter {lexer : Lexer} (h : lexer.rest ≠ []) :
    lexer.next.after.rest.length < lexer.rest.length := by
  match cs : lexer.rest with
  | [] => exact absurd cs h
  | c :: r =>
    have digits := length_dropWhile_le Text.isDecimalDigit r
    have blanks := length_dropWhile_le Text.isBlank r
    simp only [next, cs, List.length_cons]
    split
    · simp only [numberStep]; omega
    · split
      · simp only [blankStep]; omega
      · unfold singleStep; split <;> simp

structure Scan where
  tokens : List Token
  reports : List Diagnostic
  after : Lexer

def scan (lexer : Lexer) : Scan :=
  let step := lexer.next
  if _h : lexer.rest = [] then
    { tokens := [step.token], reports := step.report.toList, after := step.after }
  else
    let more := step.after.scan
    { tokens := step.token :: more.tokens
      reports := step.report.toList ++ more.reports
      after := more.after }
termination_by lexer.rest.length
decreasing_by exact next_shorter _h

end Lexer

/-- All tokens of a line, blanks and bad characters included. -/
def tokenize (s : String) : List Token := (Lexer.ofText s).scan.tokens

def lexicalReports (s : String) : List Diagnostic := (Lexer.ofText s).scan.reports

end LineCalc.Syntax
