import LineCalc.Syntax.Operation

/-!
Lexers and parsers side by side. Each writes to a log of its own or to the one they share, and so do
reports made by hand. Logs only grow.
-/
namespace LineCalc
open Syntax

/-- A lexer or parser and its own log; without one it writes to the shared log. -/
structure Seat (α : Type) where
  reader : α
  own? : Option Log := none

def Seat.moveOn (seat : Seat α) (reader : α) (reports : Log) : Seat α :=
  { reader, own? := seat.own?.map (· ++ reports) }

structure Workbench where
  shared : Log := []
  lexers : List (Seat Lexer) := []
  parsers : List (Seat Parser) := []

namespace Workbench

inductive Step where
  | report (diagnostic : Diagnostic)
  | openLexer (text : String) (sharesLog : Bool)
  | openParser (text : String) (sharesLog : Bool)
  | lexer (index : Nat) (operation : Lexer.Operation)
  | parser (index : Nat) (operation : Parser.Operation)
  deriving DecidableEq, Repr

inductive Answer where
  | done
  | tokens (read : List Token)
  | parser (answer : Parser.Answer)
  deriving DecidableEq, Repr

def logOf (bench : Workbench) (seat : Seat α) : Log := seat.own?.getD bench.shared

def sharedAfter (bench : Workbench) (seat : Seat α) (reports : Log) : Log :=
  if seat.own?.isSome then bench.shared else bench.shared ++ reports

def privateLog (sharesLog : Bool) : Option Log := if sharesLog then none else some []

def perform (bench : Workbench) : Step → Answer × Workbench
  | .report diagnostic => (.done, { bench with shared := bench.shared ++ [diagnostic] })
  | .openLexer text sharesLog =>
    let seat := ⟨Lexer.ofText text, privateLog sharesLog⟩
    (.done, { bench with lexers := bench.lexers ++ [seat] })
  | .openParser text sharesLog =>
    let seat : Seat Parser := ⟨Parser.ofText text, privateLog sharesLog⟩
    let reports := lexicalReports text
    (.done,
      { bench with
        shared := bench.sharedAfter seat reports
        parsers := bench.parsers ++ [seat.moveOn seat.reader reports] })
  | .lexer index operation =>
    match bench.lexers[index]? with
    | none => (.done, bench)
    | some seat =>
      let scan := seat.reader.perform operation
      (.tokens scan.tokens,
        { bench with
          shared := bench.sharedAfter seat scan.reports
          lexers := bench.lexers.set index (seat.moveOn scan.after scan.reports) })
  | .parser index operation =>
    match bench.parsers[index]? with
    | none => (.done, bench)
    | some seat =>
      let step := seat.reader.perform (bench.logOf seat) operation
      (.parser step.answer,
        { bench with
          shared := bench.sharedAfter seat step.reports
          parsers := bench.parsers.set index (seat.moveOn step.after step.reports) })

def performAll (bench : Workbench) : List Step → List Answer × Workbench
  | [] => ([], bench)
  | step :: rest =>
    let (answer, after) := bench.perform step
    let (answers, last) := after.performAll rest
    (answer :: answers, last)

/-- The same step where no lexer and no parser shares a log. -/
def Step.apart : Step → Step
  | .openLexer text _ => .openLexer text false
  | .openParser text _ => .openParser text false
  | step => step

end Workbench
end LineCalc
