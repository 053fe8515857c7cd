import LineCalc.Syntax.Lexer
import LineCalc.Syntax.Rules
import LineCalc.Syntax.Tree

/-!
A parser at work on one line: its tokens, a cursor over them and the tree once it is known. Blanks
and bad characters are left out of the tokens; what was said about them is not.
-/
namespace LineCalc.Syntax

def Token.isSignificant (t : Token) : Bool := t.kind ≠ .whiteSpace && t.kind ≠ .bad

structure Parser where
  /-- The tokens before the end of the line. -/
  body : List Token
  /-- The token at the end of the line. -/
  stop : Token
  /-- How many tokens were consumed. The end of the line counts each time it is. -/
  cursor : Nat := 0
  /-- How many groups enclose the cursor. -/
  depth : Nat := 0
  tree? : Option Tree := none

namespace Parser

def ofText (s : String) : Parser :=
  let tokens := (tokenize s).filter Token.isSignificant
  { body := tokens.dropLast, stop := tokens.getLastD ⟨.endOfFile, s.length, some "", none⟩ }

def tokens (p : Parser) : List Token := p.body ++ [p.stop]

def upcoming (p : Parser) : List Token := p.body.drop p.cursor

def current (p : Parser) : Token := p.upcoming.headD p.stop

/-- The token `offset` places after the cursor: the last one beyond the end, counted from the end
when the place is negative, and none before that. -/
def peek? (p : Parser) (offset : Int) : Option Token :=
  let place := (p.cursor : Int) + offset
  if 0 ≤ place then some (p.tokens.getD place.toNat p.stop)
  else if 0 ≤ place + p.tokens.length then p.tokens[(place + p.tokens.length).toNat]?
  else none

def advance (p : Parser) : Parser := { p with cursor := p.cursor + 1 }

structure Step (α : Type) where
  answer : α
  reports : List Diagnostic := []
  after : Parser

def next (p : Parser) : Step Token := { answer := p.current, after := p.advance }

def accept (p : Parser) (kind : Kind) : Step Token :=
  if p.current.kind = kind then p.next
  else
    { answer := .synthesized kind p.current.position
      reports := [.unexpectedToken p.current.kind kind]
      after := p }

/-- Runs a rule at the cursor. The groups that it enters it leaves again. -/
def apply (p : Parser) (rule : Token → Nat → Rule) : Step Expr :=
  let reading := (rule p.stop (maxNesting - p.depth)).read p.upcoming
  { answer := reading.expr
    reports := reading.reports
    after := { p with cursor := p.cursor + (p.upcoming.length - reading.rest.length) } }

def primary (p : Parser) : Step Expr := p.apply Syntax.primary
def factor (p : Parser) : Step Expr := p.apply Syntax.factor
def term (p : Parser) : Step Expr := p.apply Syntax.term
def expression (p : Parser) : Step Expr := p.apply Syntax.expression

/-- The tree of the whole line. It holds all that was reported before it was made; asked again, the
parser gives the same tree. -/
def parse (p : Parser) (earlier : Log) : Step Tree :=
  match p.tree? with
  | some tree => { answer := tree, after := p }
  | none =>
    let root := p.expression
    let stop := root.after.accept .endOfFile
    let reports := root.reports ++ stop.reports
    let tree := { diagnostics := earlier ++ reports, root := root.answer, endOfFile := stop.answer }
    { answer := tree, reports, after := { stop.after with tree? := some tree } }

end Parser

def parse (s : String) : Tree := ((Parser.ofText s).parse (lexicalReports s)).answer

end LineCalc.Syntax
