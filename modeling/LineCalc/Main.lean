import LineCalc.CommandLine.Run
import LineCalc.Text.Lines

/-!
The program: settings come from a file and the environment, lines from the input as they are typed.
-/
namespace LineCalc
open CommandLine Display

/-- A path that cannot be opened is taken for absent, one that opens but cannot be read is not. -/
def findFile (path : String) : IO FileState := do
  match ← (IO.FS.Handle.mk path .read).toBaseIO with
  | .error _ => return .absent
  | .ok file =>
    match ← file.readBinToEnd.toBaseIO with
    | .ok bytes => return .content bytes
    | .error _ => return .unreadable

def usageText : String := "Usage: minicalc [OPTIONS] COMMAND [ARGS]..."

def put (text : String) : IO Unit := do
  let output ← IO.getStdout
  output.putStr text
  output.flush

def emit : Emission → IO Unit
  | .out text => put text
  | .err text => IO.eprint text
  | .log record => do IO.eprintln (record.line (toString (← IO.monoMsNow)))
  | .refusal error => IO.eprintln ("Error: " ++ error.message)
  | .usage => IO.eprintln usageText

def emitShown (threshold : Level) (emissions : List Emission) : IO Unit :=
  (emissions.filter (Emission.isShown threshold)).forM emit

def crash (reason : Crash) : IO UInt32 := do
  IO.eprintln reason.message
  return 1

def readLines : IO (List String) := do
  let typed ← (← IO.getStdin).getLine
  return (Text.lines typed.toList).map String.ofList

partial def converse (ready : Ready) (prompt : String) (showTree : Bool) (pending : List String) :
    IO UInt32 := do
  put prompt
  match ← if pending.isEmpty then readLines else pure pending with
  | [] =>
    let turn := ⟨none, Session.endingReplies .endOfInput, showTree⟩
    emitShown ready.threshold (replyEmissions ready.colors turn)
    return 0
  | line :: rest =>
    if Text.allBlank line then return 0
    match Session.respond showTree line with
    | .error fault => crash (.evaluation fault)
    | .ok response =>
      let turn := ⟨some line, response.replies, response.showTree⟩
      emitShown ready.threshold (replyEmissions ready.colors turn)
      converse ready prompt response.showTree rest

def startSession (ready : Ready) (settings : SessionSettings) : IO UInt32 := do
  match Prompt.plain settings.prompt with
  | .error error => crash (.markup error)
  | .ok prompt =>
    emitShown ready.threshold ready.opening
    converse ready prompt settings.showTree []

def finish (result : Except Crash Ended) : IO UInt32 := do
  match result with
  | .error reason => crash reason
  | .ok ended =>
    ended.emissions.forM emit
    return ended.exit.toUInt32

def worldFor (options : GeneralOptions) : IO World := do
  let directory := (← IO.currentDir).toString
  let file ← findFile (Settings.filePath directory options.config?)
  let level? ← IO.getEnv "MINICALC_LOG_LEVEL"
  return { directory, files := fun _ => file, level?, colors := ← (← IO.getStdout).isTty }

def runProgram (arguments : List String) : IO UInt32 := do
  match Invocation.ofArguments arguments with
  | .start options (some (.repl showTree? prompt?)) =>
    match ready (← worldFor options) options with
    | .ok ready => startSession ready (sessionSettings ready.settings showTree? prompt?)
    | .error error =>
      if error.isConfigurationError then finish (.ok (refusedRun error))
      else crash (.settings error)
  | .start options _ => finish (run (← worldFor options) arguments)
  | _ => finish (run { directory := "", files := fun _ => .absent } arguments)

end LineCalc

def main (arguments : List String) : IO UInt32 := LineCalc.runProgram arguments
