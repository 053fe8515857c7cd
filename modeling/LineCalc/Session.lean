import LineCalc.Drawing
import LineCalc.Line
import LineCalc.Text.Blank

/-!
An interactive session: lines are read one by one until an empty one or the end of the input. Each is
a command or is evaluated, by itself; only the switch for drawing trees outlasts a line.
-/
namespace LineCalc.Session

def treeCommand : String := "#showTree"
def clearCommand : String := "#cls"

inductive Reply where
  | treesSwitched (on : Bool)
  | cleared
  | drawing (lines : List String)
  | value (n : Int)
  | divisionByZero
  | diagnostic (d : Syntax.Diagnostic)
  /-- Input ended in the middle of a line of the screen. -/
  | lineEnd
  deriving DecidableEq, Repr

def outcomeReplies : Outcome → List Reply
  | .value n => [.value n]
  | .divisionByZero => [.divisionByZero]
  | .rejected diagnostics => diagnostics.map .diagnostic

def resultReplies (showTree : Bool) (result : LineResult) : List Reply :=
  (if showTree then [.drawing (Drawing.ofNode (.expr result.tree.root))] else []) ++
    outcomeReplies result.outcome

structure Response where
  replies : List Reply
  showTree : Bool
  deriving DecidableEq, Repr

def respond (showTree : Bool) (line : String) : Except Fault Response :=
  if line = treeCommand then .ok ⟨[.treesSwitched (!showTree)], !showTree⟩
  else if line = clearCommand then .ok ⟨[.cleared], showTree⟩
  else (evaluateLine line).map fun result => ⟨resultReplies showTree result, showTree⟩

inductive Ending where
  | endOfInput
  | interrupt
  deriving DecidableEq, Repr

def endingReplies : Ending → List Reply
  | .endOfInput | .interrupt => [.lineEnd]

/-- One reading: the line, or none at the end of the input, what was answered and the switch then. -/
structure Turn where
  line? : Option String
  replies : List Reply
  showTree : Bool
  deriving DecidableEq, Repr

def run (ending : Ending) (showTree : Bool) : List String → Except Fault (List Turn)
  | [] => .ok [⟨none, endingReplies ending, showTree⟩]
  | line :: rest =>
    if Text.allBlank line then .ok [⟨some line, [], showTree⟩]
    else do
      let response ← respond showTree line
      let turns ← run ending response.showTree rest
      return ⟨some line, response.replies, response.showTree⟩ :: turns

def unread (lines : List String) (turns : List Turn) : Nat :=
  lines.length - (turns.filterMap Turn.line?).length

end LineCalc.Session
