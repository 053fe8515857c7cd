import LineCalc.Syntax.Grammar
import LineCalc.Syntax.Operation

/-!
The rules as they are carried out: the cursor moves on from token to token, the count of open groups
goes up at an opening parenthesis and down again behind the group, and reports go to a log that may
hold anything before. Each relation has one case for each way through; that there is always one way to
the end, and only one, is left to be proved.
-/
namespace LineCalc.Syntax

structure Descent where
  parser : Parser
  log : Log

namespace Descent

def current (d : Descent) : Token := d.parser.current

def advance (d : Descent) : Descent := { d with parser := d.parser.advance }

def report (d : Descent) (diagnostic : Diagnostic) : Descent :=
  { d with log := d.log ++ [diagnostic] }

def enter (d : Descent) : Descent :=
  { d with parser := { d.parser with depth := d.parser.depth + 1 } }

def leave (d : Descent) : Descent :=
  { d with parser := { d.parser with depth := d.parser.depth - 1 } }

def accept (kind : Kind) (d : Descent) : Token × Descent :=
  if d.current.kind = kind then (d.current, d.advance)
  else (.synthesized kind d.current.position, d.report (.unexpectedToken d.current.kind kind))

inductive Skips : Nat → Descent → Descent → Prop where
  | closed (d : Descent) : Skips 0 d d
  | ended {balance : Nat} {d : Descent} (ends : d.current.kind = .endOfFile) :
      Skips (balance + 1) d d
  | opening {balance : Nat} {d after : Descent} (opens : d.current.kind = .openParenthesis)
      (more : Skips (balance + 2) d.advance after) : Skips (balance + 1) d after
  | closing {balance : Nat} {d after : Descent} (closes : d.current.kind = .closeParenthesis)
      (more : Skips balance d.advance after) : Skips (balance + 1) d after
  | other {balance : Nat} {d after : Descent} (inLine : d.current.kind ≠ .endOfFile)
      (noOpening : d.current.kind ≠ .openParenthesis)
      (noClosing : d.current.kind ≠ .closeParenthesis)
      (more : Skips (balance + 1) d.advance after) : Skips (balance + 1) d after

inductive Goal where
  | rule (category : Category)
  /-- Further operands behind the first, as long as operators of one strength follow. -/
  | further (operand : Category) (strength : Nat) (left : Expr)

/-- From a descent, a goal is reached with an expression and a later descent. -/
inductive Reaches : Goal → Descent → Expr → Descent → Prop where
  | number {d : Descent} (noGroup : d.current.kind ≠ .openParenthesis) :
      Reaches (.rule .primary) d (.number (d.accept .number).1) (d.accept .number).2
  | skipped {d after : Descent} (opens : d.current.kind = .openParenthesis)
      (deep : maxNesting ≤ d.parser.depth)
      (skips : Skips 1 (d.advance.report (.nestingTooDeep maxNesting)) after) :
      Reaches (.rule .primary) d (.number (.synthesized .number d.current.position)) after
  | group {d inside : Descent} {inner : Expr} (opens : d.current.kind = .openParenthesis)
      (shallow : d.parser.depth < maxNesting)
      (reads : Reaches (.rule .term) d.advance.enter inner inside) :
      Reaches (.rule .primary) d (.group d.current inner (inside.leave.accept .closeParenthesis).1)
        (inside.leave.accept .closeParenthesis).2
  | factor {d after last : Descent} {first e : Expr} (reads : Reaches (.rule .primary) d first after)
      (more : Reaches (.further .primary 2 first) after e last) : Reaches (.rule .factor) d e last
  | term {d after last : Descent} {first e : Expr} (reads : Reaches (.rule .factor) d first after)
      (more : Reaches (.further .factor 1 first) after e last) : Reaches (.rule .term) d e last
  | stops {operand : Category} {strength : Nat} {left : Expr} {d : Descent}
      (other : d.current.kind.binaryPrecedence ≠ strength) :
      Reaches (.further operand strength left) d left d
  | joins {operand : Category} {strength : Nat} {left right e : Expr} {d after last : Descent}
      (same : d.current.kind.binaryPrecedence = strength)
      (reads : Reaches (.rule operand) d.advance right after)
      (more : Reaches (.further operand strength (.binary left d.current right)) after e last) :
      Reaches (.further operand strength left) d e last

def finish (d : Descent) (root : Expr) : Tree × Descent :=
  let (endOfFile, after) := d.accept .endOfFile
  let tree : Tree := { diagnostics := after.log, root, endOfFile }
  (tree, { after with parser := { after.parser with tree? := some tree } })

def ruleOf? : Parser.Operation → Option Category
  | .primary => some .primary
  | .factor => some .factor
  | .term | .expression => some .term
  | _ => none

inductive Performs (d : Descent) : Parser.Operation → Parser.Answer → Descent → Prop where
  | peek (offset : Int) :
      Performs d (.peek offset) (((d.parser.peek? offset).map .token).getD .outside) d
  | current : Performs d .current (.token d.current) d
  | next : Performs d .next (.token d.current) d.advance
  | accept (kind : Kind) : Performs d (.accept kind) (.token (d.accept kind).1) (d.accept kind).2
  | rule {operation : Parser.Operation} {category : Category} {e : Expr} {after : Descent}
      (carries : ruleOf? operation = some category) (reads : Reaches (.rule category) d e after) :
      Performs d operation (.expr e) after
  | parse {root : Expr} {behind : Descent} (fresh : d.parser.tree? = none)
      (reads : Reaches (.rule .term) d root behind) :
      Performs d .parse (.tree (behind.finish root).1) (behind.finish root).2
  | parseAgain {tree : Tree} (made : d.parser.tree? = some tree) : Performs d .parse (.tree tree) d

inductive PerformsAll : Descent → List Parser.Operation → List Parser.Answer → Descent → Prop where
  | nil (d : Descent) : PerformsAll d [] [] d
  | cons {d after last : Descent} {operation : Parser.Operation} {answer : Parser.Answer}
      {rest : List Parser.Operation} {answers : List Parser.Answer}
      (first : Performs d operation answer after) (later : PerformsAll after rest answers last) :
      PerformsAll d (operation :: rest) (answer :: answers) last

end Descent
end LineCalc.Syntax
