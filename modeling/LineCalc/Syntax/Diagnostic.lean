import LineCalc.Syntax.Kind
import LineCalc.Text.Quoted

/-!
Complaints about a line, and their wording.
-/
namespace LineCalc.Syntax

inductive Diagnostic where
  | badCharacter (text : String)
  | invalidNumber (text : String)
  | unexpectedToken (actual expected : Kind)
  | nestingTooDeep (limit : Int)
  deriving DecidableEq, Repr

def Diagnostic.message : Diagnostic → String
  | badCharacter text => "ERROR: bad character input: '" ++ text ++ "'"
  | invalidNumber text => "ERROR: The number " ++ text ++ " is not a valid Int32"
  | unexpectedToken actual expected =>
    "ERROR: Unexpected token <" ++ actual.name ++ ">, expected <" ++ expected.name ++ ">"
  | nestingTooDeep limit =>
    "ERROR: Parentheses nested deeper than " ++ toString limit ++ " levels"

abbrev Log := List Diagnostic

def Log.messages (log : Log) : List String := log.map Diagnostic.message

def Log.describe (log : Log) : String :=
  "DiagnosticBag(" ++ Text.quotedList log.messages ++ ")"

end LineCalc.Syntax
