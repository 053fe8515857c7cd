import LineCalc.CommandLine.Invocation
import LineCalc.Display.Prompt
import LineCalc.Display.Table
import LineCalc.Journal
import LineCalc.Settings.Loading

/-!
A run of the program: what it writes, where to, and the code it exits with.
-/
namespace LineCalc.CommandLine
open Display

inductive Emission where
  | out (text : String)
  | err (text : String)
  | log (record : LogRecord)
  /-- The settings cannot be used. -/
  | refusal (error : SettingsError)
  | usage
  deriving DecidableEq, Repr

inductive Crash where
  | settings (error : SettingsError)
  | evaluation (fault : Fault)
  | markup (error : Markup.MarkupError)
  deriving DecidableEq, Repr

structure Ended where
  emissions : List Emission := []
  exit : Nat := 0
  deriving DecidableEq, Repr

structure World where
  directory : String
  files : String → FileState
  level? : Option String := none
  input : List String := []
  colors : Bool := false

def versionLine : String := "minicalc version 0.3.0\n"

def outLines (colors : Bool) (lines : List StyledLine) : List Emission :=
  lines.map fun line => .out (line.render colors ++ "\n")

def errLines (colors : Bool) (lines : List StyledLine) : List Emission :=
  lines.map fun line => .err (line.render colors ++ "\n")

def drawingLines (tree : Syntax.Tree) : List StyledLine :=
  (Drawing.ofNode (.expr tree.root)).map (⟨.faint, ·⟩)

def exitCode : Outcome → Nat
  | .value _ => 0
  | .rejected _ => 1
  | .divisionByZero => 2

def outcomeLines (outcome : Outcome) : List StyledLine :=
  (Session.outcomeReplies outcome).flatMap replyLines

def outcomeEmissions (colors : Bool) (outcome : Outcome) : List Emission :=
  if exitCode outcome = 0 then outLines colors (outcomeLines outcome)
  else errLines colors (outcomeLines outcome)

def evalRun (colors : Bool) (expression : String) (showTree : Bool) : Except Fault Ended :=
  (evaluateLine expression).map fun result =>
    { emissions :=
        (LogRecord.ofLine expression result).map .log ++
          (if showTree then outLines colors (drawingLines result.tree) else []) ++
          outcomeEmissions colors result.outcome
      exit := exitCode result.outcome }

def tokenTable (tokens : List Syntax.Token) : Table where
  title := "Tokens"
  columns := [{ heading := "Kind" }, { heading := "Position", side := .right },
    { heading := "Text" }, { heading := "Value", side := .right }]
  rows := tokens.map fun t =>
    [t.kind.name, toString t.position, (t.text.map Text.quoted).getD "None",
      (t.value.map toString).getD ""]

def tokensRun (colors : Bool) (expression : String) : Ended where
  emissions :=
    [.log (LogRecord.lexed expression)] ++
      outLines colors ((tokenTable (Syntax.tokenize expression)).lines.map (⟨.plain, ·⟩)) ++
      outLines colors ((Syntax.lexicalReports expression).map fun d => complaintLine d.message)

def isEvaluated (line : String) : Bool :=
  line ≠ Session.treeCommand && line ≠ Session.clearCommand && !Text.allBlank line

def lineRecords (line : String) : List Emission :=
  if isEvaluated line then
    match evaluateLine line with
    | .ok result => (LogRecord.ofLine line result).map .log
    | .error _ => []
  else []

def replyEmissions (colors : Bool) (turn : Session.Turn) : List Emission :=
  (turn.line?.map lineRecords).getD [] ++ outLines colors (turn.replies.flatMap replyLines)

def turnEmissions (colors : Bool) (prompt : String) (turn : Session.Turn) : List Emission :=
  .out prompt :: replyEmissions colors turn

def replRun (colors : Bool) (settings : SessionSettings) (input : List String) :
    Except Crash Ended := do
  let prompt ← (Prompt.plain settings.prompt).mapError .markup
  let turns ← (Session.run .endOfInput settings.showTree input).mapError .evaluation
  return { emissions := turns.flatMap (turnEmissions colors prompt) }

def sessionSettings (settings : Settings) (showTree? : Option Bool) (prompt? : Option String) :
    SessionSettings :=
  { settings.session with
    showTree := showTree?.getD settings.session.showTree
    prompt := prompt?.getD settings.session.prompt }

def perform (colors : Bool) (settings : Settings) (input : List String) :
    Command → Except Crash Ended
  | .repl showTree? prompt? => replRun colors (sessionSettings settings showTree? prompt?) input
  | .eval expression showTree => (evalRun colors expression showTree).mapError .evaluation
  | .tokens expression => .ok (tokensRun colors expression)

def Emission.isShown (threshold : Level) : Emission → Bool
  | log record => threshold.shows record.level
  | _ => true

def misusedRun : Ended := { emissions := [.usage], exit := 2 }

def refusedRun (error : SettingsError) : Ended := { emissions := [.refusal error], exit := 1 }

structure Ready where
  settings : Settings
  threshold : Level
  colors : Bool
  opening : List Emission

def ready (world : World) (options : GeneralOptions) : Except SettingsError Ready := do
  let loaded ← Settings.load world.directory world.files options.config?
  let settings := loaded.settings
  let warnings := loaded.ignored?.toList.map fun path =>
    Emission.err ((LogRecord.ignoredFile path).text ++ "\n")
  let threshold := settings.resolvedLevel options.logLevel? world.level?
  let colors := world.colors && settings.session.color && !options.noColor
  return ⟨settings, threshold, colors, warnings ++ [.log (LogRecord.usedSettings settings)]⟩

def startRun (world : World) (options : GeneralOptions) (command? : Option Command) :
    Except Crash Ended :=
  match ready world options, command? with
  | .error error, _ =>
    if error.isConfigurationError then .ok (refusedRun error) else .error (.settings error)
  | .ok _, none => .ok misusedRun
  | .ok ready, some command => do
    let ended ← perform ready.colors ready.settings world.input command
    let emissions := (ready.opening ++ ended.emissions).filter (Emission.isShown ready.threshold)
    return { ended with emissions }

def run (world : World) (arguments : List String) : Except Crash Ended :=
  match Invocation.ofArguments arguments with
  | .misused => .ok misusedRun
  | .version => .ok { emissions := [.out versionLine] }
  | .start options command? => startRun world options command?

def Crash.message : Crash → String
  | settings error => error.message
  | evaluation fault => fault.message
  | markup error => error.message

end LineCalc.CommandLine
