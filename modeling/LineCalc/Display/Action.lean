import LineCalc.Literal.Reading
import LineCalc.Text.Split
import LineCalc.Text.WordChar

/-!
Actions: a name, perhaps with arguments in parentheses. The arguments are literals.
-/
namespace LineCalc.Display

inductive ActionError where
  | flawed (arguments action : List Char) (flaw : Literal.Flaw)
  | refused (action : List Char) (refusal : Literal.Expression.Refusal)
  deriving DecidableEq, Repr

def ActionError.message : ActionError → String
  | flawed arguments action flaw =>
    "error parsing " ++ Text.quoted (String.ofList arguments) ++ " in " ++
      Text.quoted (String.ofList action) ++ "; " ++ flaw.message
  | refused action refusal =>
    "error parsing " ++ Text.quoted (String.ofList action) ++ "; " ++ refusal.message

def isActionNameChar (c : Char) : Bool := Text.isWordChar c || c = '.'

/-- The arguments with their parentheses. An action of another form is all arguments. -/
def actionArguments (action : List Char) : List Char :=
  match action.dropWhile isActionNameChar with
  | [] => ['(', ')']
  | '(' :: r => if r.getLast? = some ')' && !r.contains '\n' then '(' :: r else action
  | _ => action

def checkAction (action : List Char) : Except ActionError Unit :=
  let arguments := actionArguments (Text.trim action)
  (Literal.checkLiteral arguments).mapError fun
    | .inl flaw => .flawed arguments action flaw
    | .inr refusal => .refused action refusal

end LineCalc.Display
