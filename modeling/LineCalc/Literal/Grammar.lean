import LineCalc.Literal.Choice

/-!
The grammar of expressions, with hints for likely mistakes. Square brackets have no place in it.
-/
namespace LineCalc.Literal

abbrev Rule.operand : Rule := .operation 0

namespace Grammar

open Reader

/-- Binary operators by levels, those that bind closer later. -/
def operators : List (List String) :=
  [["|"], ["^"], ["&"], ["<<", ">>"], ["+", "-"], ["*", "/", "//", "%", "@"]]

def softKeywords : List (List Char) := ["_", "case", "match"].map String.toList

section Rules

variable (self : Rule → Reader Expression)

/-! ### Rows of expressions -/

def row (item : Reader Expression) : Reader Expression := do
  let first ← item
  let rest ← many do mark ","; item
  let closed ← optional (mark ",")
  return if rest.isEmpty && closed.isNone then first else .tuple (first :: rest)

def expressions : Reader Expression := row (self .expression)

def starExpressions : Reader Expression := row (self .starExpression)

def starExpression : Reader Expression :=
  (do mark "*"; return .starred (← self .operand)) <|> self .expression

/-- An assignment to a name. After the sign no other reading counts. -/
def assignment : Reader Expression := settled do
  let _ ← name
  mark ":="
  let _ ← committed (self .expression)
  return .other "named expression"

def unassigned : Reader Expression := do
  let value ← self .expression
  notAhead (mark ":=")
  return value

def namedExpression : Reader Expression :=
  assignment self <|> hint (self .misassignment) <|> unassigned self

def starNamedExpression : Reader Expression :=
  (do mark "*"; return .starred (← self .operand)) <|> namedExpression self

def starNamedExpressions : Reader (List Expression) := do
  let items ← separated (starNamedExpression self)
  let _ ← optional (mark ",")
  return items

def yielding : Reader Expression := do
  mark "yield"
  (do mark "from"; let _ ← self .expression) <|> (do let _ ← optional (starExpressions self))
  return .other "yield expression"

/-! ### Operators -/

def joined (operand : Reader Expression) (operator : String) : Reader Expression := do
  let first ← operand
  let rest ← many do mark operator; operand
  return if rest.isEmpty then first else rest.foldl (.binary operator) first

def inversion : Reader Expression :=
  (do mark "not"; return .unary "not" (← self .inversion)) <|> self .comparison

def comparisonSign : Reader String :=
  oneOf ["==", "!=", "<=", "<", ">=", ">"] <|> (do mark "not"; mark "in"; return "not in") <|>
    (do mark "in"; return "in") <|> (do mark "is"; mark "not"; return "is not") <|>
    (do mark "is"; return "is")

def comparison : Reader Expression := do
  let left ← self .operand
  let rest ← many do
    let sign ← comparisonSign
    let _ ← self .operand
    return sign
  return match rest with
    | sign :: _ => .comparison sign left
    | [] => left

def operation (level : Nat) : Reader Expression := do
  let next := if level + 1 < operators.length then Rule.operation (level + 1) else .factor
  let first ← self next
  extend (fun left => do
    let sign ← oneOf (operators.getD level [])
    return .binary sign left (← self next)) first

def factor : Reader Expression :=
  (do let sign ← oneOf ["+", "-", "~"]; return .unary sign (← self .factor)) <|> do
    let base ← self .awaited
    (do mark "**"; return .binary "**" base (← self .factor)) <|> pure base

def awaited : Reader Expression :=
  (do mark "await"; let _ ← self .primary; return .other "await expression") <|> self .primary

def trailer (base : Expression) : Reader Expression :=
  (do mark "."; let _ ← name; return .member) <|>
  (do let _ ← self .generator; return .call base true) <|> do
    mark "("
    let arguments ← optional (self .arguments)
    mark ")"
    return .call base arguments.isSome

def primary : Reader Expression := do extend (trailer self) (← self .atom)

/-! ### Loops -/

def trailerAhead : Reader Unit := ahead (oneOf ["(", "[", "."])

def targetBase : Reader Expression := do
  let first ← self .atom
  trailerAhead
  extend (fun base => do
    let longer ← trailer self base
    trailerAhead
    return longer) first

def targetRow : Reader Unit := do
  let _ ← self .loopTarget
  let rest ← many do mark ","; self .loopTarget
  let closed ← optional (mark ",")
  if rest.isEmpty && closed.isNone then miss

def simpleTarget : Reader Expression :=
  (do
    let _ ← self .targetBase
    mark "."
    let _ ← name
    notAhead trailerAhead
    return .member) <|>
  (do return .ofName (← name)) <|>
  (do mark "("; let target ← self .simpleTarget; mark ")"; return target) <|>
  (do mark "("; let _ ← optional (targetRow self); mark ")"; return .tuple [])

def loopTarget : Reader Expression :=
  (do mark "*"; notAhead (mark "*"); self .loopTarget) <|> self .simpleTarget

def loopTargets : Reader Unit :=
  (do let _ ← self .loopTarget; notAhead (mark ",")) <|> do
    let _ ← self .loopTarget
    let _ ← many do mark ","; self .loopTarget
    let _ ← optional (mark ",")

def badTarget : Reader Unit := do
  let _ ← optional (mark "async")
  mark "for"
  match (← starExpressions self).noTarget? with
  | some kindName => refuse (.noTarget kindName)
  | none => stop

def loop : Reader Unit := settled do
  let body : Reader Unit := do
    mark "for"
    loopTargets self
    mark "in"
    committed do
      let _ ← self .disjunction
      let _ ← many do mark "if"; self .disjunction
  (do mark "async"; body) <|> body <|> hint (badTarget self)

def loops : Reader Unit := do let _ ← atLeastOne (loop self)

def starred : Reader Expression := do
  mark "*"
  (do return .starred (← self .expression)) <|> refuse .starAlone

/-! ### Brackets -/

def badProduct (openings : List String) : Reader Expression :=
  (do let _ ← oneOf ("(" :: openings); let _ ← starred self; loops self; refuse .starredProduct) <|>
  (do
    let _ ← oneOf openings
    let _ ← starNamedExpression self
    mark ","
    let _ ← starNamedExpressions self
    loops self
    refuse .looseTarget) <|>
  (do
    let _ ← oneOf openings
    let _ ← starNamedExpression self
    mark ","
    loops self
    refuse .looseTarget)

def badProducts : Reader Expression := badProduct self ["[", "\x7b"]

def generator : Reader Expression :=
  (do
    mark "("
    let _ ← assignment self <|> unassigned self
    loops self
    mark ")"
    return .other "generator expression") <|>
  hint (badProducts self)

def group : Reader Expression :=
  (do
    mark "("
    let value ← yielding self <|> namedExpression self
    mark ")"
    return value) <|>
  hint ((do mark "("; let _ ← starred self; mark ")"; refuse .starredGroup) <|>
    (do mark "("; mark "**"; let _ ← self .expression; mark ")"; refuse .doubleStarredGroup))

def tuple : Reader Expression := do
  mark "("
  let items ← optional do
    let first ← starNamedExpression self
    mark ","
    return first :: (← optional (starNamedExpressions self)).getD []
  mark ")"
  return .tuple (items.getD [])

def pair : Reader (List Expression) := do
  let key ← self .expression
  mark ":"
  return [key, ← self .expression]

def entry : Reader (List Expression) :=
  (do mark "**"; return [.noKey, ← self .operand]) <|> pair self

def badValue : Reader Unit :=
  (do
    let _ ← self .expression
    mark ":"
    mark "*"
    let _ ← self .operand
    refuse .starredValue) <|> do
    let _ ← self .expression
    mark ":"
    ahead (oneOf ["\x7d", ","])
    refuse .keyWithoutValue

def badEntries : Reader Unit :=
  (do
    let _ ← separated (entry self)
    mark ","
    (do let _ ← self .expression; notAhead (mark ":"); refuse .keyWithoutColon) <|>
      badValue self) <|>
  badValue self

/-- A dictionary. Mistakes in its entries are looked for without hints as well. -/
def dict : Reader Expression :=
  (do
    mark "\x7b"
    let entries ← optional do
      let entries ← separated (entry self)
      let _ ← optional (mark ",")
      return entries.flatten
    mark "\x7d"
    return .dict (entries.getD [])) <|>
  (do mark "\x7b"; badEntries self; mark "\x7d"; return .dict [])

def set : Reader Expression := do
  mark "\x7b"
  let items ← starNamedExpressions self
  mark "\x7d"
  return .set items

def dictProduct : Reader Expression :=
  (do
    mark "\x7b"
    let _ ← pair self
    loops self
    mark "\x7d"
    return .other "dict comprehension") <|>
  hint (do
    mark "\x7b"
    mark "**"
    let _ ← self .operand
    loops self
    mark "\x7d"
    refuse .doubleStarredProduct)

def setProduct : Reader Expression :=
  (do
    mark "\x7b"
    let _ ← namedExpression self
    loops self
    mark "\x7d"
    return .other "set comprehension") <|>
  hint (badProducts self)

def number : Reader Expression := do
  let number ← token fun
    | .number number => some number
    | _ => none
  if longestNumber < number.digits then refuse (.longNumber number.digits)
  return .number number

def texts : Reader Expression := do
  let found ← atLeastOne text
  fun source _ place memory =>
    match source.texts found with
    | .ok value => (.read value place, memory)
    | .error flaw => (.flaw flaw, memory)

def atom : Reader Expression :=
  (do return .ofName (← name)) <|>
  (do return .constant (← oneOf constants)) <|>
  (do ahead text; self .texts) <|>
  number <|>
  (do ahead (mark "("); tuple self <|> self .group <|> self .generator) <|>
  (do ahead (mark "\x7b"); dict self <|> set self <|> dictProduct self <|> setProduct self) <|>
  (do mark "..."; return .constant "...")

/-! ### Functions without a name -/

def parameterName : Reader Unit := do let _ ← name

def parameterEnd : Reader Unit := mark "," <|> ahead (mark ":")

def default : Reader Unit :=
  (do mark "="; let _ ← self .expression) <|>
  hint (do mark "="; ahead (oneOf [")", ","]); refuse (.parameters .missingDefault))

def required : Reader Unit := do parameterName; parameterEnd

def defaulted : Reader Unit := do parameterName; default self; parameterEnd

def anyParameter : Reader Unit := do
  parameterName
  let _ ← optional (default self)
  parameterEnd

def slashEnd : Reader Unit := do mark "/"; parameterEnd

def requiredBeforeSlash : Reader Unit := do let _ ← atLeastOne required; slashEnd

def defaultedBeforeSlash : Reader Unit := do
  let _ ← many required
  let _ ← atLeastOne (defaulted self)
  slashEnd

def doubleStar : Reader Unit :=
  hint ((do mark "**"; parameterName; mark "="; refuse (.parameters .doubleStarWithDefault)) <|>
    (do
      mark "**"
      parameterName
      mark ","
      parameterName
      refuse (.parameters .afterDoubleStar)) <|>
    (do
      mark "**"
      parameterName
      mark ","
      let _ ← oneOf ["*", "**", "/"]
      refuse (.parameters .afterDoubleStar))) <|>
  (do mark "**"; required)

def badStar : Reader Unit :=
  (do
    mark "*"
    mark ":" <|> (do mark ","; let _ ← oneOf [":", "**"])
    refuse (.parameters .starAlone)) <|>
  (do mark "*"; parameterName; mark "="; refuse (.parameters .starWithDefault)) <|>
  (do
    mark "*"
    required <|> mark ","
    let _ ← many (anyParameter self)
    mark "*"
    required <|> mark ","
    refuse (.parameters .starTwice))

def star : Reader Unit :=
  hint (badStar self) <|>
  (do
    mark "*"
    required
    let _ ← many (anyParameter self)
    let _ ← optional doubleStar) <|>
  (do
    mark "*"
    mark ","
    let _ ← atLeastOne (anyParameter self)
    let _ ← optional doubleStar) <|>
  doubleStar

def badParameters : Reader Unit :=
  (do
    let _ ← many required
    defaultedBeforeSlash self <|> (do let _ ← atLeastOne (defaulted self))
    required
    refuse (.parameters .required)) <|>
  (do
    let _ ← many required
    mark "("
    let _ ← separated parameterName
    let _ ← optional (mark ",")
    mark ")"
    refuse (.parameters .bracketed)) <|>
  (do mark "/"; mark ","; refuse (.parameters .slashFirst)) <|>
  (do
    requiredBeforeSlash <|> defaultedBeforeSlash self
    let _ ← many (anyParameter self)
    mark "/"
    refuse (.parameters .slashTwice)) <|>
  (do
    let _ ← optional (requiredBeforeSlash <|> defaultedBeforeSlash self)
    let _ ← many (anyParameter self)
    mark "*"
    mark "," <|> required
    let _ ← many (anyParameter self)
    mark "/"
    refuse (.parameters .slashAfterStar)) <|>
  (do
    let _ ← atLeastOne (anyParameter self)
    mark "/"
    mark "*"
    refuse (.parameters .starAfterSlash))

def parameters : Reader Unit :=
  hint (badParameters self) <|>
  (do
    requiredBeforeSlash
    let _ ← many required
    let _ ← many (defaulted self)
    let _ ← optional (star self)) <|>
  (do
    defaultedBeforeSlash self
    let _ ← many (defaulted self)
    let _ ← optional (star self)) <|>
  (do
    let _ ← atLeastOne required
    let _ ← many (defaulted self)
    let _ ← optional (star self)) <|>
  (do
    let _ ← atLeastOne (defaulted self)
    let _ ← optional (star self)) <|>
  star self

def function : Reader Expression := do
  mark "lambda"
  let _ ← optional (parameters self)
  mark ":"
  let _ ← self .expression
  return .other "lambda"

/-! ### Arguments -/

inductive Argument where
  | positional
  | starred
  | named
  | doubleStarred
  deriving DecidableEq, Repr

def isPositional (argument : Argument) : Bool := argument = .positional || argument = .starred

def badNamed : Reader Argument :=
  (do
    let word ← oneOf constants
    mark "="
    refuse (.noTarget word)) <|>
  (do
    let _ ← name
    mark "="
    let _ ← self .expression
    loops self
    refuse .maybeEquality) <|>
  (do
    notAhead (do let _ ← name; mark "=")
    let _ ← self .expression
    mark "="
    refuse .argumentAssigned)

def namedArgument : Reader Argument :=
  hint (badNamed self) <|>
  (do let _ ← name; mark "="; let _ ← self .expression; return .named)

def namedOrStarred : Reader Argument :=
  namedArgument self <|> (do let _ ← starred self; return .starred)

def namedOrDoubleStarred : Reader Argument :=
  namedArgument self <|> (do mark "**"; let _ ← self .expression; return .doubleStarred)

def lateArguments : Reader (List Argument) :=
  (do
    let first ← separated (namedOrStarred self)
    mark ","
    return first ++ (← separated (namedOrDoubleStarred self))) <|>
  separated (namedOrStarred self) <|> separated (namedOrDoubleStarred self)

def positionalArgument : Reader Argument :=
  (do let _ ← starred self; return .starred) <|> do
    let _ ← assignment self <|> unassigned self
    notAhead (mark "=")
    return .positional

def argumentRow : Reader (List Argument) :=
  (do
    let first ← separated (positionalArgument self)
    return first ++ (← optional do mark ","; lateArguments self).getD []) <|>
  lateArguments self

def badArguments : Reader Expression := settled (
  (do
    (do
      let _ ← separated (positionalArgument self)
      mark ","
      let _ ← lateArguments self) <|> (do let _ ← lateArguments self)
    mark ","
    let _ ← separated do let _ ← starred self; notAhead (mark "=")
    refuse .starAfterDoubleStar) <|>
  (do
    let _ ← self .expression
    loops self
    mark ","
    let _ ← optional ((do let _ ← argumentRow self) <|> (do let _ ← self .expression; loops self))
    refuse .bareGenerator) <|>
  (do
    let _ ← name
    mark "="
    let _ ← self .expression
    loops self
    refuse .maybeEquality) <|>
  (do
    let found ← argumentRow self
    loops self
    if (found.filter isPositional).length ≤ 1 then stop else refuse .bareGenerator) <|>
  (do
    let _ ← argumentRow self
    mark ","
    let _ ← self .expression
    loops self
    refuse .bareGenerator) <|>
  (do
    let found ← argumentRow self
    mark ","
    let _ ← argumentRow self
    refuse (.positionalLate (found.contains .doubleStarred))))

def arguments : Reader Expression :=
  (do
    let _ ← argumentRow self
    let _ ← optional (mark ",")
    ahead (mark ")")
    return .other "arguments") <|>
  hint (badArguments self)

/-! ### Whole expressions -/

def conditional : Reader Expression := do
  let _ ← self .disjunction
  mark "if"
  let _ ← self .disjunction
  mark "else"
  let _ ← self .expression
  return .other "conditional expression"

def plainExpression : Reader Expression :=
  conditional self <|> self .disjunction <|> function self

/-- An expression that another one follows at once, or a condition without its other case. The
first counts only in a bracket. -/
def badExpression : Reader Expression := settled (
  (do
    notAhead ((do let _ ← name; let _ ← text) <|>
      (do if (← name) ∉ softKeywords then miss))
    let first ← self .disjunction
    let _ ← withoutHints (plainExpression self)
    let isInside := (← lookBack).any (0 < ·.depth)
    if first.bareCaller?.isNone && isInside then refuse .missingComma else stop) <|>
  (do
    let _ ← self .disjunction
    mark "if"
    let _ ← self .disjunction
    notAhead (oneOf ["else", ":"])
    refuse .elseExpected))

def bareCall : Reader Expression := settled do
  let caller := Expression.ofName (← name)
  notAhead (mark "(")
  let _ ← starExpressions self
  match caller.bareCaller? with
  | some called => refuse (.noParentheses called)
  | none => stop

def expression : Reader Expression :=
  hint (badExpression self) <|> hint (bareCall self) <|> plainExpression self

def misassignment : Reader Expression :=
  (do
    let target ← self .expression
    mark ":="
    let _ ← self .expression
    refuse (.cannotName target.kindName)) <|>
  (do
    let _ ← name
    mark "="
    let _ ← self .operand
    notAhead (oneOf ["=", ":="])
    refuse .maybeEquality) <|>
  (do
    notAhead (tuple self <|> self .generator <|> (do return .constant (← oneOf constants)))
    let target ← self .operand
    mark "="
    let _ ← self .operand
    notAhead (oneOf ["=", ":="])
    refuse (.cannotAssign target.kindName))

def body : Rule → Reader Expression
  | .expression => expression self
  | .starExpression => starExpression self
  | .disjunction => joined (self .conjunction) "or"
  | .conjunction => joined (self .inversion) "and"
  | .inversion => inversion self
  | .comparison => comparison self
  | .operation level => operation self level
  | .factor => factor self
  | .awaited => awaited self
  | .primary => primary self
  | .atom => atom self
  | .texts => texts
  | .group => group self
  | .generator => generator self
  | .arguments => arguments self
  | .misassignment => misassignment self
  | .loopTarget => loopTarget self
  | .simpleTarget => simpleTarget self
  | .targetBase => targetBase self

end Rules

/-- Rules refer to one another up to a depth. -/
def reader : (depth : Nat) → Rule → Reader Expression
  | 0, _ => miss
  | depth + 1, rule => remembered rule (body (reader depth) rule)

end Grammar
end LineCalc.Literal
