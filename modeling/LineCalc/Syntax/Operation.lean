import LineCalc.Syntax.Parser

/-!
Operations on lexers and parsers, as data, so that runs of them can be spoken of.
-/
namespace LineCalc.Syntax

inductive Lexer.Operation where
  | next
  /-- Reads on to the first end of file. -/
  | all
  deriving DecidableEq, Repr

def Lexer.perform (lexer : Lexer) : Lexer.Operation → Lexer.Scan
  | .next =>
    let step := lexer.next
    { tokens := [step.token], reports := step.report.toList, after := step.after }
  | .all => lexer.scan

inductive Parser.Operation where
  | peek (offset : Int)
  | current
  | next
  | accept (kind : Kind)
  | primary
  | factor
  | term
  | expression
  | parse
  deriving DecidableEq, Repr

inductive Parser.Answer where
  | token (t : Token)
  /-- There is no token at the place that was asked for. -/
  | outside
  | expr (e : Expr)
  | tree (t : Tree)
  deriving DecidableEq, Repr

namespace Parser

def Step.map (f : α → β) (step : Step α) : Step β := { step with answer := f step.answer }

def perform (p : Parser) (earlier : Log) : Operation → Step Answer
  | .peek offset => { answer := ((p.peek? offset).map .token).getD .outside, after := p }
  | .current => { answer := .token p.current, after := p }
  | .next => p.next.map .token
  | .accept kind => (p.accept kind).map .token
  | .primary => p.primary.map .expr
  | .factor => p.factor.map .expr
  | .term => p.term.map .expr
  | .expression => p.expression.map .expr
  | .parse => (p.parse earlier).map .tree

end Parser
end LineCalc.Syntax
