import LineCalc.Line
import LineCalc.Settings.Basic

/-!
What the program writes to its log.
-/
namespace LineCalc

structure LogRecord where
  source : String
  level : Level
  text : String
  deriving DecidableEq, Repr

namespace LogRecord

def line (time : String) (record : LogRecord) : String :=
  " - ".intercalate [time, record.source, record.level.name, record.text]

/-- What is wrong with the file is left out, which follows its path after a colon. -/
def ignoredFile (path : String) : LogRecord :=
  ⟨"minicalc.core.config", .warning, "Ignoring unreadable config file " ++ path⟩

def truthText (b : Bool) : String := if b then "True" else "False"

def describe (settings : Settings) : String :=
  "CalculatorConfig(log_level=" ++ Text.quoted settings.level.name ++
    ", repl=ReplConfig(prompt=" ++ Text.quoted settings.session.prompt ++
    ", show_tree=" ++ truthText settings.session.showTree ++
    ", color=" ++ truthText settings.session.color ++ "))"

def usedSettings (settings : Settings) : LogRecord :=
  ⟨"minicalc.cli", .debug, "Using configuration " ++ describe settings⟩

def lexed (s : String) : LogRecord :=
  ⟨"minicalc.core.syntax.lexer", .debug,
    "Lexed " ++ toString (Syntax.tokenize s).length ++ " tokens with " ++
      toString (Syntax.lexicalReports s).length ++ " diagnostics"⟩

def parserTokens (s : String) : LogRecord :=
  ⟨"minicalc.core.syntax.parser", .debug,
    "Parser received " ++ toString (Syntax.Parser.ofText s).tokens.length ++ " tokens for " ++
      Text.quoted s⟩

def parsedTree (tree : Syntax.Tree) : LogRecord :=
  ⟨"minicalc.core.syntax.parser", .debug,
    "Parsed tree with " ++ toString tree.diagnostics.length ++ " diagnostics"⟩

def dividedByZero (s : String) : LogRecord :=
  ⟨"minicalc.repl", .info, "Evaluation fault for " ++ Text.quoted s ++ ": division by zero"⟩

def ofLine (s : String) (result : LineResult) : List LogRecord :=
  [parserTokens s, parsedTree result.tree] ++
    if result.outcome = .divisionByZero then [dividedByZero s] else []

end LogRecord
end LineCalc
