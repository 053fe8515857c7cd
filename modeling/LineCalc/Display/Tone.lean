import LineCalc.Session

/-!
Lines for a terminal, with the colours that tell drawings and complaints from results.
-/
namespace LineCalc.Display

inductive Tone where
  | plain
  | faint
  | alarm
  deriving DecidableEq, Repr

def Tone.code? : Tone → Option String
  | plain => none
  | faint => some "90"
  | alarm => some "38;5;88"

structure StyledLine where
  tone : Tone
  text : String
  deriving DecidableEq, Repr

/-- Characters that move the cursor or sound the bell; they are left out of what is shown. -/
def isDropped (c : Char) : Bool :=
  c = '\x07' || c = '\x08' || c = '\x0b' || c = '\x0c' || c = '\r'

def shown (s : String) : String := String.ofList (s.toList.filter fun c => !isDropped c)

def StyledLine.render (colors : Bool) (line : StyledLine) : String :=
  let text := shown line.text
  match line.tone.code? with
  | some code =>
    if colors && text ≠ "" then "\x1b[" ++ code ++ "m" ++ text ++ "\x1b[0m" else text
  | none => text

def complaintLine (message : String) : StyledLine := ⟨.alarm, message⟩

def replyLines : Session.Reply → List StyledLine
  | .treesSwitched true => [⟨.plain, "SyntaxTree visualization enabled"⟩]
  | .treesSwitched false => [⟨.plain, "SyntaxTree visualization disabled"⟩]
  | .cleared => []
  | .drawing lines => lines.map (⟨.faint, ·⟩)
  | .value n => [⟨.plain, toString n⟩]
  | .divisionByZero => [complaintLine divisionByZeroMessage]
  | .diagnostic d => [complaintLine d.message]
  | .lineEnd => [⟨.plain, ""⟩]

def renderLines (colors : Bool) (lines : List StyledLine) : String :=
  String.join (lines.map fun line => line.render colors ++ "\n")

end LineCalc.Display
