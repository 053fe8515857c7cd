import LineCalc.Proofs.MissingTokens

/-!
How far one mistake in a line can spread. A report is made where a token is missing or a group is
skipped; each is paid for by a token that was read, but for one missing operand, and a report on the
end of the line by a token that is left over. So the rules report no more than one time for every
token and once more, and what they fill in are operands and closing parentheses alone.
-/
namespace LineCalc.Syntax

namespace Expr

def parts : Expr → List Expr
  | number t => [number t]
  | group o e c => group o e c :: e.parts
  | binary l op r => binary l op r :: (l.parts ++ r.parts)
  | unary op e => unary op e :: e.parts

def countKind (kind : Kind) (e : Expr) : Nat := (e.parts.map Expr.kind).count kind

theorem leaves_of_mem_parts {part e : Expr} (member : part ∈ e.parts) :
    part.leaves ⊆ e.leaves := by
  induction e with
  | number t =>
    obtain rfl := List.mem_singleton.mp member
    exact List.Subset.refl _
  | group o e c ih =>
    rcases List.mem_cons.mp member with rfl | inside
    · exact List.Subset.refl _
    · intro t leaf
      simp [leaves, ih inside leaf]
  | binary l op r hl hr =>
    rcases List.mem_cons.mp member with rfl | inside
    · exact List.Subset.refl _
    · intro t leaf
      rcases List.mem_append.mp inside with left | right
      · simp [leaves, hl left leaf]
      · simp [leaves, hr right leaf]
  | unary op e ih =>
    rcases List.mem_cons.mp member with rfl | inside
    · exact List.Subset.refl _
    · intro t leaf
      simp [leaves, ih inside leaf]

theorem countKind_group (o c : Token) (e : Expr) {kind : Kind}
    (other : kind ≠ .parenthesizedExpression) :
    (group o e c).countKind kind = e.countKind kind := by
  simp [countKind, parts, Expr.kind, other.symm]

theorem countKind_binary (l r : Expr) (op : Token) (kind : Kind) :
    (binary l op r).countKind kind =
      l.countKind kind + r.countKind kind + if Kind.binaryExpression = kind then 1 else 0 := by
  simp only [countKind, parts, Expr.kind, List.map_cons, List.map_append, List.count_cons,
    List.count_append, beq_iff_eq]

theorem countKind_number {e : Expr} (shape : e.WellShaped) :
    e.countKind .numberExpression = e.countKind .binaryExpression + 1 := by
  induction e with
  | number t => rfl
  | group o e c ih =>
    rw [countKind_group o c e (by simp), countKind_group o c e (by simp)]
    exact ih shape
  | binary l op r hl hr =>
    obtain ⟨_, _, _, left, right⟩ := shape
    rw [countKind_binary, countKind_binary, hl left, hr right, if_neg (by simp), if_pos rfl]
    omega
  | unary op e ih => exact shape.elim

end Expr

variable {stop : Token} {category : Category} {allowance nesting : Nat} {tokens : List Token}
  {reading : Reading} {e : Expr} {s : String}

theorem TreeOf.of_mem_parts {part : Expr} (tree : TreeOf category nesting e)
    (member : part ∈ e.parts) : ∃ other depth, TreeOf other depth part := by
  induction tree with
  | number kind =>
    obtain rfl := List.mem_singleton.mp member
    exact ⟨.primary, 0, .number kind⟩
  | group opens inner closes ih =>
    rcases List.mem_cons.mp member with rfl | inside
    · exact ⟨_, _, .group opens inner closes⟩
    · exact ih inside
  | lonePrimary only ih => exact ih member
  | loneFactor only ih => exact ih member
  | product first strength last hf hl =>
    rcases List.mem_cons.mp member with rfl | inside
    · exact ⟨_, _, .product first strength last⟩
    · exact (List.mem_append.mp inside).elim hf hl
  | sum first strength last hf hl =>
    rcases List.mem_cons.mp member with rfl | inside
    · exact ⟨_, _, .sum first strength last⟩
    · exact (List.mem_append.mp inside).elim hf hl

/-! Reports. -/

theorem expect_reports_le (stop : Token) (kind : Kind) (tokens : List Token) :
    (expect stop kind tokens).reports.length + (expect stop kind tokens).rest.length ≤
      tokens.length + 1 := by
  unfold expect
  split
  · split <;> simp
  · split
    · simp only [List.length_nil, List.length_cons]
      omega
    · simp only [List.length_nil, List.length_cons]
      omega

/-- Reports are made on tokens that are no longer ahead, and one besides. -/
theorem Reads.reports_le (reads : Reads stop category allowance tokens reading) :
    reading.reports.length + reading.rest.length ≤ tokens.length + 1 := by
  induction reads with
  | number noGroup => exact expect_reports_le _ _ _
  | @skipped opening rest opens =>
    have behind := (afterGroups_suffix 1 rest).length_le
    simp only [skippedGroup, List.length_nil, List.length_cons]
    omega
  | @group allowance opening rest inside opens inner complete ih =>
    -- The opening parenthesis pays for the closing one.
    have closing := expect_reports_le stop .closeParenthesis inside.rest
    simp only [Reading.enclose, List.length_append, List.length_cons]
    omega
  | lonePrimary only ih => exact ih
  | loneFactor only complete ih => exact ih
  | product first next strength last hf hl | sum first next strength last complete hf hl =>
    -- The operator pays for the operand behind it.
    rw [next, List.length_cons] at hf
    simp only [Reading.join, List.length_append]
    omega

theorem expect_end_reports_le (position : Nat) (tokens : List Token) :
    (expect (endToken position) .endOfFile tokens).reports.length ≤ tokens.length := by
  cases tokens with
  | nil => simp [expect, endToken]
  | cons t rest =>
    by_cases last : t.kind = .endOfFile
    · simp [expect, last]
    · simp [expect, last]

theorem exists_bounded_reports (s : String) :
    ∃ reports, (parse s).diagnostics = lexicalReports s ++ reports ∧
      reports.length ≤ (grammarTokens s).length + 1 := by
  have reading := (lineReading_reads s).reports_le
  have last := expect_end_reports_le s.length (lineReading s).rest
  rw [parse_eq]
  refine ⟨_, rfl, ?_⟩
  rw [List.length_append]
  omega

/-! Synthesized tokens. -/

theorem kind_of_synthesized_leaf {t : Token} (member : t ∈ (parse s).root.leaves)
    (made : t.isSynthesized = true) : t.kind = .number ∨ t.kind = .closeParenthesis := by
  rw [parse_eq] at member
  rcases (lineReading_reads s).leaves_source rfl t member with read | number | closing
  · have text : t.text.isSome = true := by
      apply ofText_tokens_text s
      rw [ofText_tokens]
      exact List.mem_append_left _ read
    simp [Option.isNone_iff_eq_none.mp made] at text
  · left
    rw [number]
    rfl
  · right
    rw [closing]
    rfl

theorem isSynthesized_eq_false {t : Token} (member : t ∈ (parse s).root.leaves)
    (noNumber : t.kind ≠ .number) (noClosing : t.kind ≠ .closeParenthesis) :
    t.isSynthesized = false := by
  rw [Bool.eq_false_iff]
  intro made
  rcases kind_of_synthesized_leaf member made with number | closing
  · exact noNumber number
  · exact noClosing closing

theorem operator_read {left right : Expr} {operator : Token}
    (member : .binary left operator right ∈ (parse s).root.parts) :
    operator.isSynthesized = false := by
  obtain ⟨category, depth, tree⟩ := (parse_treeOf s).of_mem_parts member
  have strong : 0 < operator.kind.binaryPrecedence := tree.wellShaped.1
  apply isSynthesized_eq_false
  · apply Expr.leaves_of_mem_parts member
    simp [Expr.leaves]
  · exact Kind.ne_of_binds strong rfl
  · exact Kind.ne_of_binds strong rfl

theorem opening_read {opening closing : Token} {inside : Expr}
    (member : .group opening inside closing ∈ (parse s).root.parts) :
    opening.isSynthesized = false := by
  obtain ⟨category, depth, tree⟩ := (parse_treeOf s).of_mem_parts member
  have opens : opening.kind = .openParenthesis := tree.enclosed.1
  apply isSynthesized_eq_false
  · apply Expr.leaves_of_mem_parts member
    simp [Expr.leaves]
  · simp [opens]
  · simp [opens]

/-- Whatever a line looks like, the rules add at most one report for each of its tokens and one more.
Its tree has one number more than it has operators, no operator and no opening parenthesis in it was
put in by the rules, and its groups nest no deeper than is allowed. -/
theorem error_cascades_are_bounded (s : String) :
    (∃ reports, (parse s).diagnostics = lexicalReports s ++ reports ∧
      reports.length ≤ (grammarTokens s).length + 1) ∧
    (parse s).root.countKind .numberExpression =
      (parse s).root.countKind .binaryExpression + 1 ∧
    (∀ t ∈ (parse s).tokens, t.isSynthesized = true →
      t.kind = .number ∨ t.kind = .closeParenthesis ∨ t.kind = .endOfFile) ∧
    (∀ left operator right, .binary left operator right ∈ (parse s).root.parts →
      operator.isSynthesized = false) ∧
    (∀ opening inside closing, .group opening inside closing ∈ (parse s).root.parts →
      opening.isSynthesized = false) ∧
    (parse s).root.nesting ≤ 100 := by
  have tree := parse_treeOf s
  refine ⟨exists_bounded_reports s, Expr.countKind_number tree.wellShaped, ?_, ?_, ?_,
    tree.nesting_le⟩
  · intro t member made
    rcases List.mem_append.mp member with leaf | last
    · exact (kind_of_synthesized_leaf leaf made).imp_right .inl
    · right
      right
      rw [List.mem_singleton.mp last, parse_eq]
      exact expect_kind _ _ _
  · intro left operator right member
    exact operator_read member
  · intro opening inside closing member
    exact opening_read member

/-- The bound is reached: four operators lack five operands. -/
example : (grammarTokens "+*/-").length = 4 ∧ (parse "+*/-").diagnostics.length = 5 := by
  decide +kernel

end LineCalc.Syntax
