import LineCalc.Proofs.LineTrees

/-!
Which lines are accepted, and that their tokens and the strengths of operators leave one tree.
Operands and operators take turns in a word of the grammar; so a tree over such a word whose groups
stand between parentheses has numbers for its numbers.
-/
namespace LineCalc.Syntax

/-- Whether an operand ends with a token, given whether one ended before it; none if the token is
out of turn. -/
def turn (ended : Bool) (kind : Kind) : Option Bool :=
  if ended then
    if 0 < kind.binaryPrecedence then some false
    else if kind = .closeParenthesis then some true
    else none
  else if kind = .number then some true
  else if kind = .openParenthesis then some false
  else none

def turns (ended : Bool) : List Kind → Option Bool
  | [] => some ended
  | kind :: rest => (turn ended kind).bind fun next => turns next rest

theorem turns_operator (ended : Bool) {operator : Kind} (strong : 0 < operator.binaryPrecedence)
    (rest : List Kind) :
    turns ended (operator :: rest) = if ended then turns false rest else none := by
  cases ended <;> cases operator <;> simp_all [Kind.binaryPrecedence, turns, turn]

theorem turns_closing (rest : List Kind) :
    turns true (.closeParenthesis :: rest) = turns true rest := rfl

theorem turns_of_append (ended : Bool) (front back : List Kind) :
    turns ended (front ++ back) = (turns ended front).bind fun next => turns next back := by
  induction front generalizing ended with
  | nil => rfl
  | cons kind rest ih =>
    rw [List.cons_append, turns, turns, Option.bind_assoc]
    exact congrArg _ (funext ih)

theorem turns_of_neighbours (first second : Kind)
    (never : ∀ ended, turns ended [first, second] = none) (ended : Bool) (front back : List Kind) :
    turns ended (front ++ first :: second :: back) = none := by
  have pair : turns ended (front ++ ([first, second] ++ back)) = none := by
    rw [turns_of_append]
    cases turns ended front with
    | none => rfl
    | some next => rw [Option.bind_some, turns_of_append, never, Option.bind_none]
  exact pair

theorem Derives.turns_append {category : Category} {nesting : Nat} {word : List Kind}
    (derivation : Derives category nesting word) (rest : List Kind) :
    turns false (word ++ rest) = turns true rest := by
  induction derivation generalizing rest with
  | number nesting => rfl
  | @group nesting word inner ih =>
    have inside : turns false (.openParenthesis :: (word ++ [.closeParenthesis]) ++ rest) =
        turns false (word ++ .closeParenthesis :: rest) := by simp [turns, turn]
    rw [inside, ih, turns_closing]
  | lonePrimary only ih => exact ih rest
  | @product nesting left right operator first strength last hf hl =>
    rw [List.append_assoc, hf, List.cons_append, turns_operator true (by omega), ← hl rest]
    rfl
  | loneFactor only ih => exact ih rest
  | @sum nesting left right operator first strength last hf hl =>
    rw [List.append_assoc, hf, List.cons_append, turns_operator true (by omega), ← hl rest]
    rfl

theorem numbers_kind_of_turns {e : Expr} (shape : e.WellShaped) (enclosed : e.Enclosed)
    {rest : List Kind} (noOperand : turns false rest ≠ some true)
    (accepted : turns false (e.leaves.map Token.kind ++ rest) = some true) :
    (∀ t ∈ e.numbers, t.kind = .number) ∧ turns true rest = some true := by
  induction e generalizing rest with
  | number t =>
    by_cases kind : t.kind = .number
    · exact ⟨by simpa [Expr.numbers] using kind,
        by simpa [Expr.leaves, turns, turn, kind] using accepted⟩
    · by_cases opens : t.kind = .openParenthesis
      · exact absurd (by simpa [Expr.leaves, turns, turn, opens] using accepted) noOperand
      · simp [Expr.leaves, turns, turn, kind, opens] at accepted
  | group o e c ih =>
    obtain ⟨opens, closes, within⟩ := enclosed
    have inside :
        turns false (e.leaves.map Token.kind ++ .closeParenthesis :: rest) = some true := by
      simpa [Expr.leaves, turns, turn, opens, closes] using accepted
    obtain ⟨numbers, behind⟩ := ih shape within (by simp [turns, turn]) inside
    exact ⟨numbers, by rwa [turns_closing] at behind⟩
  | binary l op r hl hr =>
    obtain ⟨strong, _, _, left, right⟩ := shape
    have front : turns false (l.leaves.map Token.kind ++
        (op.kind :: (r.leaves.map Token.kind ++ rest))) = some true := by
      simpa [Expr.leaves] using accepted
    obtain ⟨numbersLeft, behind⟩ := hl left enclosed.1 (by simp [turns_operator, strong]) front
    rw [turns_operator true strong] at behind
    obtain ⟨numbersRight, final⟩ := hr right enclosed.2 noOperand behind
    exact ⟨List.forall_mem_append.mpr ⟨numbersLeft, numbersRight⟩, final⟩
  | unary op e ih => exact shape.elim

theorem turns_of_clean {s : String} (clean : (parse s).diagnostics = []) :
    turns false ((grammarTokens s).map Token.kind) = some true := by
  have accepted := (parse_treeOf s).derives.turns_append []
  rwa [List.append_nil, leaves_of_clean clean] at accepted

theorem treeOf_of_word {e : Expr} {nesting : Nat} (shape : e.WellShaped) (enclosed : e.Enclosed)
    (word : Derives .term nesting (e.leaves.map Token.kind)) : TreeOf .term e.nesting e := by
  have accepted : turns false (e.leaves.map Token.kind ++ []) = some true := word.turns_append []
  have numbers := (numbers_kind_of_turns shape enclosed (by simp [turns]) accepted).1
  exact treeOf_of_shape shape enclosed numbers (Nat.le_refl _) (strength_pos_of_wellShaped shape)

/-- The lines without diagnostics are those with good tokens and a word of the grammar, and the
root is then the only tree that has these tokens, the right shape and parentheses around its
groups. -/
theorem accepts_exactly_the_grammar (s : String) :
    ((parse s).diagnostics = [] ↔
      (∀ t ∈ tokenize s, t.kind ≠ .bad ∧ (t.kind = .number → t.value ≠ none)) ∧
        Derives .term maxNesting ((grammarTokens s).map Token.kind)) ∧
    ((parse s).diagnostics = [] →
      (Parser.ofText s).tokens = grammarTokens s ++ [(parse s).endOfFile] ∧
        (parse s).endOfFile = endToken s.length ∧
        ∀ e : Expr,
          e.leaves = grammarTokens s ∧ e.WellShaped ∧ e.Enclosed ↔ e = (parse s).root) := by
  constructor
  · rw [clean_iff_exists_tree, lexicalReports_eq_nil_iff, derives_iff_exists_tree]
  · intro clean
    have root := parse_treeOf s
    have leaves := leaves_of_clean clean
    have last : (parse s).endOfFile = endToken s.length := by rw [parse_of_clean clean]
    refine ⟨by rw [last, ofText_eq]; rfl, last, fun e => ?_⟩
    constructor
    · rintro ⟨same, shape, enclosed⟩
      have word := root.derives
      rw [leaves, ← same] at word
      exact (treeOf_of_word shape enclosed word).eq_of_leaves root (same.trans leaves.symm)
    · rintro rfl
      exact ⟨leaves, root.wellShaped, root.enclosed⟩

theorem accepts_a_group_times_a_number :
    (parse "(1 + 2) * 3").diagnostics = [] ∧
      ∀ e : Expr, e.leaves = grammarTokens "(1 + 2) * 3" ∧ e.WellShaped ∧ e.Enclosed ↔
        e = (parse "(1 + 2) * 3").root :=
  have clean : (parse "(1 + 2) * 3").diagnostics = [] := by decide +kernel
  ⟨clean, ((accepts_exactly_the_grammar "(1 + 2) * 3").2 clean).2.2⟩

/-- Tokens and strengths alone leave a second tree: a group that stands between two numbers. -/
theorem another_tree_of_a_sum :
    (parse "1 + 2").diagnostics = [] ∧
      ∃ e : Expr, e.leaves = grammarTokens "1 + 2" ∧ e.WellShaped ∧ e ≠ (parse "1 + 2").root :=
  ⟨by decide +kernel,
    .group ⟨.number, 0, some "1", some 1⟩ (.number ⟨.plus, 2, some "+", none⟩)
      ⟨.number, 4, some "2", some 2⟩,
    by decide +kernel⟩

end LineCalc.Syntax
