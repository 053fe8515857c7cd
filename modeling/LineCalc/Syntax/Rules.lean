import LineCalc.Syntax.Diagnostic
import LineCalc.Syntax.Expr

/-!
The grammar by recursive descent:

    expression = term
    term       = factor (("+" | "-") factor)*
    factor     = primary (("*" | "/") primary)*
    primary    = "(" expression ")" | number

A rule reads an expression off the front of the tokens and never fails: where a token is missing it
reports so and puts a synthesized token in its place. The end of the input is no part of the tokens;
`stop` stands there. Groups may be nested as deep as an allowance says, and one level of grammar is a
function of the rule for its operands, so the rules recurse on the allowance alone.
-/
namespace LineCalc.Syntax

def maxNesting : Nat := 100

theorem message_nestingTooDeep : (Diagnostic.nestingTooDeep maxNesting).message =
    "ERROR: Parentheses nested deeper than 100 levels" := by decide +kernel

structure Reading where
  expr : Expr
  reports : List Diagnostic := []
  rest : List Token

structure Rule where
  read : List Token → Reading
  suffix : ∀ tokens, (read tokens).rest <:+ tokens

structure Expected where
  token : Token
  reports : List Diagnostic := []
  rest : List Token

def expect (stop : Token) (kind : Kind) : List Token → Expected
  | [] =>
    if stop.kind = kind then { token := stop, rest := [] }
    else
      { token := .synthesized kind stop.position
        reports := [.unexpectedToken stop.kind kind]
        rest := [] }
  | t :: r =>
    if t.kind = kind then { token := t, rest := r }
    else
      { token := .synthesized kind t.position
        reports := [.unexpectedToken t.kind kind]
        rest := t :: r }

theorem expect_suffix (stop : Token) (kind : Kind) (tokens : List Token) :
    (expect stop kind tokens).rest <:+ tokens := by
  fun_cases expect stop kind tokens with
  | case1 => exact List.suffix_refl _
  | case2 => exact List.suffix_refl _
  | case3 t r => exact List.suffix_cons t r
  | case4 t r => exact List.suffix_refl _

def chain (operand : Rule) (strength : Nat) (left : Expr) : (tokens : List Token) → Reading
  | [] => { expr := left, rest := [] }
  | t :: r =>
    if t.kind.binaryPrecedence = strength then
      let right := operand.read r
      let more := chain operand strength (.binary left t right.expr) right.rest
      { more with reports := right.reports ++ more.reports }
    else { expr := left, rest := t :: r }
termination_by tokens => tokens.length
decreasing_by
  have shorter := (operand.suffix r).length_le
  simp only [List.length_cons]
  omega

theorem chain_suffix (operand : Rule) (strength : Nat) (left : Expr) (tokens : List Token) :
    (chain operand strength left tokens).rest <:+ tokens := by
  fun_induction chain operand strength left tokens with
  | case1 => exact List.suffix_refl _
  | case2 left t r same right more ih =>
    exact (ih.trans (operand.suffix r)).trans (List.suffix_cons t r)
  | case3 => exact List.suffix_refl _

def joined (operand : Rule) (strength : Nat) : Rule where
  read tokens :=
    let first := operand.read tokens
    let all := chain operand strength first.expr first.rest
    { all with reports := first.reports ++ all.reports }
  suffix tokens := (chain_suffix operand strength _ _).trans (operand.suffix tokens)

def factorOf (primary : Rule) : Rule := joined primary 2

def termOf (primary : Rule) : Rule := joined (factorOf primary) 1

def numberRule (stop : Token) : Rule where
  read tokens :=
    let number := expect stop .number tokens
    { expr := .number number.token, reports := number.reports, rest := number.rest }
  suffix := expect_suffix stop .number

/-- The tokens after the one that brings the count of open groups to zero. -/
def afterGroups : Nat → List Token → List Token
  | 0, tokens => tokens
  | _ + 1, [] => []
  | n + 1, t :: r =>
    if t.kind = .openParenthesis then afterGroups (n + 2) r
    else if t.kind = .closeParenthesis then afterGroups n r
    else afterGroups (n + 1) r

theorem afterGroups_suffix (n : Nat) (tokens : List Token) : afterGroups n tokens <:+ tokens := by
  fun_induction afterGroups n tokens with
  | case1 => exact List.suffix_refl _
  | case2 => exact List.suffix_refl _
  | case3 _ t r _ ih => exact ih.trans (List.suffix_cons t r)
  | case4 _ t r _ _ ih => exact ih.trans (List.suffix_cons t r)
  | case5 _ t r _ _ ih => exact ih.trans (List.suffix_cons t r)

def skippedGroup (opening : Token) (rest : List Token) : Reading where
  expr := .number (.synthesized .number opening.position)
  reports := [.nestingTooDeep maxNesting]
  rest := afterGroups 1 rest

def openGroup (stop : Token) (inner : Rule) (opening : Token) (rest : List Token) : Reading :=
  let body := inner.read rest
  let closing := expect stop .closeParenthesis body.rest
  { expr := .group opening body.expr closing.token
    reports := body.reports ++ closing.reports
    rest := closing.rest }

theorem openGroup_suffix (stop : Token) (inner : Rule) (opening : Token) (rest : List Token) :
    (openGroup stop inner opening rest).rest <:+ rest :=
  (expect_suffix stop .closeParenthesis _).trans (inner.suffix rest)

def groupOr (stop : Token) (group : Token → List Token → Reading) :
    List Token → Reading
  | [] => (numberRule stop).read []
  | t :: r => if t.kind = .openParenthesis then group t r else (numberRule stop).read (t :: r)

theorem groupOr_suffix (stop : Token) (group : Token → List Token → Reading)
    (suffix : ∀ t r, (group t r).rest <:+ r) (tokens : List Token) :
    (groupOr stop group tokens).rest <:+ tokens := by
  fun_cases groupOr stop group tokens with
  | case1 => exact (numberRule stop).suffix []
  | case2 t r => exact (suffix t r).trans (List.suffix_cons t r)
  | case3 t r => exact (numberRule stop).suffix (t :: r)

/-- Reads a number or a group with at most `allowance` levels of groups in it. -/
def primary (stop : Token) : (allowance : Nat) → Rule
  | 0 =>
    { read := groupOr stop skippedGroup
      suffix := groupOr_suffix stop skippedGroup fun _ r => afterGroups_suffix 1 r }
  | allowance + 1 =>
    { read := groupOr stop (openGroup stop (termOf (primary stop allowance)))
      suffix := groupOr_suffix stop _ fun t r => openGroup_suffix stop _ t r }

def factor (stop : Token) (allowance : Nat) : Rule := factorOf (primary stop allowance)

def term (stop : Token) (allowance : Nat) : Rule := termOf (primary stop allowance)

def expression (stop : Token) (allowance : Nat) : Rule := term stop allowance

end LineCalc.Syntax
