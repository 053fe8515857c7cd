import LineCalc.Syntax.Grammar
import LineCalc.Syntax.Rules

/-!
What the rules read, as a relation with one case for every way through the grammar, missing tokens
and skipped groups included. A factor or a term may be read in part here; it is complete where no
operator of its own follows. The relation and the rules agree, so all else about parsing is proved
by induction on the relation.
-/
namespace LineCalc.Syntax

theorem binaryPrecedence_le_two (kind : Kind) : kind.binaryPrecedence ≤ 2 := by
  cases kind <;> decide

/-- How strongly the first of the tokens binds as an operator; zero where there is none. -/
def leadingStrength : List Token → Nat
  | [] => 0
  | t :: _ => t.kind.binaryPrecedence

theorem leadingStrength_le_two (tokens : List Token) : leadingStrength tokens ≤ 2 := by
  cases tokens with
  | nil => exact Nat.zero_le 2
  | cons t rest => exact binaryPrecedence_le_two t.kind

def Reading.after (earlier : List Diagnostic) (reading : Reading) : Reading :=
  { reading with reports := earlier ++ reading.reports }

def Reading.join (left : Reading) (operator : Token) (right : Reading) : Reading :=
  { expr := .binary left.expr operator right.expr
    reports := left.reports ++ right.reports
    rest := right.rest }

def Reading.enclose (stop opening : Token) (inside : Reading) : Reading :=
  let closing := expect stop .closeParenthesis inside.rest
  { expr := .group opening inside.expr closing.token
    reports := inside.reports ++ closing.reports
    rest := closing.rest }

inductive Reads (stop : Token) : Category → Nat → List Token → Reading → Prop where
  | number {allowance : Nat} {tokens : List Token}
      (noGroup : tokens.head?.map Token.kind ≠ some .openParenthesis) :
      Reads stop .primary allowance tokens ((numberRule stop).read tokens)
  | skipped {opening : Token} {rest : List Token} (opens : opening.kind = .openParenthesis) :
      Reads stop .primary 0 (opening :: rest) (skippedGroup opening rest)
  | group {allowance : Nat} {opening : Token} {rest : List Token} {inside : Reading}
      (opens : opening.kind = .openParenthesis) (inner : Reads stop .term allowance rest inside)
      (complete : leadingStrength inside.rest = 0) :
      Reads stop .primary (allowance + 1) (opening :: rest) (inside.enclose stop opening)
  | lonePrimary {allowance : Nat} {tokens : List Token} {reading : Reading}
      (only : Reads stop .primary allowance tokens reading) :
      Reads stop .factor allowance tokens reading
  | product {allowance : Nat} {tokens rest : List Token} {left right : Reading} {operator : Token}
      (first : Reads stop .factor allowance tokens left) (next : left.rest = operator :: rest)
      (strength : operator.kind.binaryPrecedence = 2)
      (last : Reads stop .primary allowance rest right) :
      Reads stop .factor allowance tokens (left.join operator right)
  | loneFactor {allowance : Nat} {tokens : List Token} {reading : Reading}
      (only : Reads stop .factor allowance tokens reading)
      (complete : leadingStrength reading.rest ≠ 2) : Reads stop .term allowance tokens reading
  | sum {allowance : Nat} {tokens rest : List Token} {left right : Reading} {operator : Token}
      (first : Reads stop .term allowance tokens left) (next : left.rest = operator :: rest)
      (strength : operator.kind.binaryPrecedence = 1)
      (last : Reads stop .factor allowance rest right)
      (complete : leadingStrength right.rest ≠ 2) :
      Reads stop .term allowance tokens (left.join operator right)

variable {stop : Token} {allowance : Nat} {tokens : List Token} {reading : Reading}

/-! What the rules do is in the relation. -/

theorem joined_read (operand : Rule) (strength : Nat) (tokens : List Token) :
    (joined operand strength).read tokens =
      (chain operand strength (operand.read tokens).expr (operand.read tokens).rest).after
        (operand.read tokens).reports := rfl

/-- What holds of the first operand and is kept by every further one holds when a chain ends. -/
theorem chain_invariant (operand : Rule) (strength : Nat) (Holds : Reading → Prop)
    (step : ∀ left operator rest, Holds left → left.rest = operator :: rest →
      operator.kind.binaryPrecedence = strength → Holds (left.join operator (operand.read rest)))
    (left : Expr) (earlier : List Diagnostic) (tokens : List Token)
    (start : Holds ⟨left, earlier, tokens⟩) :
    Holds ((chain operand strength left tokens).after earlier) := by
  fun_induction chain operand strength left tokens generalizing earlier with
  | case1 left => simpa [Reading.after] using start
  | case2 left t r same right more ih =>
    have joined := ih (earlier ++ right.reports) (step _ t r start rfl same)
    simpa [Reading.after, more] using joined
  | case3 left t r other => simpa [Reading.after] using start

theorem chain_complete (operand : Rule) (strength : Nat) (positive : 0 < strength) (left : Expr)
    (tokens : List Token) :
    leadingStrength (chain operand strength left tokens).rest ≠ strength := by
  fun_induction chain operand strength left tokens with
  | case1 left => simp only [leadingStrength]; omega
  | case2 left t r same right more ih => exact ih
  | case3 left t r other => exact other

/-- Operators of a factor never follow a term, not even one that is read in part. -/
theorem Reads.term_rest (reads : Reads stop .term allowance tokens reading) :
    leadingStrength reading.rest ≠ 2 := by
  cases reads with
  | loneFactor only complete => exact complete
  | sum first next strength last complete => exact complete

theorem reads_factorOf {rule : Rule}
    (operands : ∀ tokens, Reads stop .primary allowance tokens (rule.read tokens))
    (tokens : List Token) : Reads stop .factor allowance tokens ((factorOf rule).read tokens) := by
  rw [factorOf, joined_read]
  apply chain_invariant rule 2 (Reads stop .factor allowance tokens)
  · intro left operator rest first next strength
    exact .product first next strength (operands rest)
  · exact .lonePrimary (operands tokens)

theorem factorOf_complete (rule : Rule) (tokens : List Token) :
    leadingStrength ((factorOf rule).read tokens).rest ≠ 2 :=
  chain_complete rule 2 (by decide) _ _

theorem reads_termOf {rule : Rule}
    (operands : ∀ tokens, Reads stop .primary allowance tokens (rule.read tokens))
    (tokens : List Token) : Reads stop .term allowance tokens ((termOf rule).read tokens) := by
  rw [termOf, joined_read]
  apply chain_invariant (factorOf rule) 1 (Reads stop .term allowance tokens)
  · intro left operator rest first next strength
    exact .sum first next strength (reads_factorOf operands rest) (factorOf_complete rule rest)
  · exact .loneFactor (reads_factorOf operands tokens) (factorOf_complete rule tokens)

theorem termOf_complete {rule : Rule}
    (operands : ∀ tokens, Reads stop .primary allowance tokens (rule.read tokens))
    (tokens : List Token) : leadingStrength ((termOf rule).read tokens).rest = 0 := by
  have noSum : leadingStrength ((termOf rule).read tokens).rest ≠ 1 :=
    chain_complete (factorOf rule) 1 (by decide) _ _
  have noProduct := (reads_termOf operands tokens).term_rest
  have bound := leadingStrength_le_two ((termOf rule).read tokens).rest
  omega

theorem reads_primary (stop : Token) (allowance : Nat) (tokens : List Token) :
    Reads stop .primary allowance tokens ((primary stop allowance).read tokens) := by
  induction allowance generalizing tokens with
  | zero =>
    show Reads stop .primary 0 tokens (groupOr stop skippedGroup tokens)
    fun_cases groupOr stop skippedGroup tokens with
    | case1 => exact .number (by simp)
    | case2 t r opens => exact .skipped opens
    | case3 t r other => exact .number (by simpa using other)
  | succ allowance ih =>
    show Reads stop .primary (allowance + 1) tokens
      (groupOr stop (openGroup stop (termOf (primary stop allowance))) tokens)
    fun_cases groupOr stop (openGroup stop (termOf (primary stop allowance))) tokens with
    | case1 => exact .number (by simp)
    | case2 t r opens => exact .group opens (reads_termOf ih r) (termOf_complete ih r)
    | case3 t r other => exact .number (by simpa using other)

theorem reads_factor (stop : Token) (allowance : Nat) (tokens : List Token) :
    Reads stop .factor allowance tokens ((factor stop allowance).read tokens) :=
  reads_factorOf (reads_primary stop allowance) tokens

theorem reads_term (stop : Token) (allowance : Nat) (tokens : List Token) :
    Reads stop .term allowance tokens ((term stop allowance).read tokens) :=
  reads_termOf (reads_primary stop allowance) tokens

theorem term_complete (stop : Token) (allowance : Nat) (tokens : List Token) :
    leadingStrength ((term stop allowance).read tokens).rest = 0 :=
  termOf_complete (reads_primary stop allowance) tokens

/-! What is in the relation the rules do. -/

theorem chain_stops (operand : Rule) (strength : Nat) (left : Expr) {tokens : List Token}
    (complete : leadingStrength tokens ≠ strength) :
    chain operand strength left tokens = { expr := left, rest := tokens } := by
  cases tokens with
  | nil => rw [chain]
  | cons t rest =>
    rw [chain, if_neg]
    exact complete

theorem chain_goes_on (operand : Rule) {strength : Nat} (left : Expr) {operator : Token}
    {rest : List Token} (same : operator.kind.binaryPrecedence = strength) :
    chain operand strength left (operator :: rest) =
      (chain operand strength (.binary left operator (operand.read rest).expr)
        (operand.read rest).rest).after (operand.read rest).reports := by
  rw [chain, if_pos same]
  rfl

theorem after_after (first second : List Diagnostic) (reading : Reading) :
    (reading.after second).after first = reading.after (first ++ second) := by
  simp [Reading.after]

def Category.rule (stop : Token) (allowance : Nat) : Category → Rule
  | primary => Syntax.primary stop allowance
  | factor => Syntax.factor stop allowance
  | term => Syntax.term stop allowance

def Category.finish (stop : Token) (allowance : Nat) (reading : Reading) : Category → Reading
  | primary => reading
  | factor =>
    (chain (Syntax.primary stop allowance) 2 reading.expr reading.rest).after reading.reports
  | term =>
    (chain (Syntax.factor stop allowance) 1 reading.expr reading.rest).after reading.reports

theorem finish_factor_complete (complete : leadingStrength reading.rest ≠ 2) :
    Category.factor.finish stop allowance reading = reading := by
  simp [Category.finish, chain_stops _ _ _ complete, Reading.after]

theorem finish_term_complete (complete : leadingStrength reading.rest = 0) :
    Category.term.finish stop allowance reading = reading := by
  have noSum : leadingStrength reading.rest ≠ 1 := by omega
  simp [Category.finish, chain_stops _ _ _ noSum, Reading.after]

theorem groupOr_number (stop : Token) (group : Token → List Token → Reading)
    (noGroup : tokens.head?.map Token.kind ≠ some .openParenthesis) :
    groupOr stop group tokens = (numberRule stop).read tokens := by
  fun_cases groupOr stop group tokens with
  | case1 => rfl
  | case2 t r opens => simp [opens] at noGroup
  | case3 t r other => rfl

theorem Reads.read_eq {category : Category} (reads : Reads stop category allowance tokens reading) :
    (category.rule stop allowance).read tokens = category.finish stop allowance reading := by
  induction reads with
  | @number allowance tokens noGroup =>
    cases allowance with
    | zero => exact groupOr_number stop skippedGroup noGroup
    | succ allowance => exact groupOr_number stop _ noGroup
  | @skipped opening rest opens =>
    show groupOr stop skippedGroup (opening :: rest) = _
    rw [groupOr, if_pos opens]
    rfl
  | @group allowance opening rest inside opens inner complete ih =>
    rw [finish_term_complete complete] at ih
    show groupOr stop _ (opening :: rest) = inside.enclose stop opening
    rw [groupOr, if_pos opens, ← ih]
    rfl
  | @lonePrimary allowance tokens reading only ih =>
    have operand : (primary stop allowance).read tokens = reading := ih
    rw [Category.finish, ← operand]
    rfl
  | @product allowance tokens rest left right operator first next strength last hf hl =>
    have operand : (primary stop allowance).read rest = right := hl
    rw [Category.finish, next, chain_goes_on _ _ strength, after_after, operand] at hf
    exact hf
  | @loneFactor allowance tokens reading only complete ih =>
    have operand : (factor stop allowance).read tokens = reading :=
      ih.trans (finish_factor_complete complete)
    rw [Category.finish, ← operand]
    rfl
  | @sum allowance tokens rest left right operator first next strength last complete hf hl =>
    have operand : (factor stop allowance).read rest = right :=
      hl.trans (finish_factor_complete complete)
    rw [Category.finish, next, chain_goes_on _ _ strength, after_after, operand] at hf
    exact hf

theorem reads_term_iff :
    Reads stop .term allowance tokens reading ∧ leadingStrength reading.rest = 0 ↔
      (term stop allowance).read tokens = reading := by
  constructor
  · rintro ⟨reads, complete⟩
    exact reads.read_eq.trans (finish_term_complete complete)
  · rintro rfl
    exact ⟨reads_term stop allowance tokens, term_complete stop allowance tokens⟩

end LineCalc.Syntax
