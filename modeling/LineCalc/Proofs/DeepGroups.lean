import LineCalc.Proofs.PrintedText
import LineCalc.Proofs.TokenReckoning

/-!
Words of the grammar whose groups are nested too deep. Reading cuts these groups out of the tree,
reports each of them once and leaves everything else as it is.
-/
namespace LineCalc.Syntax

/-- The tree with a number in the place of every group that is nested deeper than an allowance. -/
def Expr.pruned : Nat → Expr → Expr
  | _, number t => number t
  | 0, group o _ _ => number (.synthesized .number o.position)
  | allowance + 1, group o e c => group o (e.pruned allowance) c
  | allowance, binary l op r => binary (l.pruned allowance) op (r.pruned allowance)
  | allowance, unary op e => unary op (e.pruned allowance)

theorem Expr.pruned_number (allowance : Nat) (t : Token) :
    (number t).pruned allowance = number t := by
  cases allowance <;> rfl

theorem Expr.pruned_binary (allowance : Nat) (left right : Expr) (operator : Token) :
    (binary left operator right).pruned allowance =
      binary (left.pruned allowance) operator (right.pruned allowance) := by
  cases allowance <;> rfl

open Reckoning (openAfter openAfterAll openAfter_operator openAfterAll_leaves)

/-- How many opening parentheses stand inside just `level` groups, when `depth` groups are open
before the first token. -/
def openingsAt (level depth : Nat) : List Token → Nat
  | [] => 0
  | t :: rest =>
    (if t.kind = .openParenthesis ∧ depth = level then 1 else 0) +
      openingsAt level (openAfter depth t) rest

variable {category : Category} {nesting : Nat} {e : Expr}

/-! Openings. -/

theorem openingsAt_append (level depth : Nat) (front back : List Token) :
    openingsAt level depth (front ++ back) =
      openingsAt level depth front + openingsAt level (openAfterAll depth front) back := by
  induction front generalizing depth with
  | nil => simp [openingsAt, openAfterAll]
  | cons t rest ih =>
    rw [List.cons_append, openingsAt, openingsAt, ih, Nat.add_assoc]
    rfl

theorem openingsAt_group {opening closing : Token} {inside : Expr}
    (opens : opening.kind = .openParenthesis) (inner : TreeOf category nesting inside)
    (closes : closing.kind = .closeParenthesis) (level depth : Nat) :
    openingsAt level depth (Expr.group opening inside closing).leaves =
      (if depth = level then 1 else 0) + openingsAt level (depth + 1) inside.leaves := by
  have opened : openAfter depth opening = depth + 1 := by simp [openAfter, opens]
  rw [Expr.leaves, openingsAt, opened, openingsAt_append, openAfterAll_leaves inner]
  simp [openingsAt, opens, closes]

theorem openingsAt_binary {left right : Expr} {operator : Token}
    (first : TreeOf category nesting left) (strong : 0 < operator.kind.binaryPrecedence)
    (level depth : Nat) :
    openingsAt level depth (Expr.binary left operator right).leaves =
      openingsAt level depth left.leaves + openingsAt level depth right.leaves := by
  have noOpening : operator.kind ≠ .openParenthesis := Kind.ne_of_binds strong rfl
  rw [Expr.leaves, openingsAt_append, openAfterAll_leaves first, openingsAt,
    openAfter_operator strong]
  simp [noOpening]

theorem openingsAt_below (tree : TreeOf category nesting e) {level depth : Nat}
    (below : level < depth) : openingsAt level depth e.leaves = 0 := by
  induction tree generalizing depth with
  | number kind => simp [Expr.leaves, openingsAt, kind]
  | group opens inner closes ih =>
    rw [openingsAt_group opens inner closes, ih (Nat.lt_succ_of_lt below), if_neg (by omega)]
  | lonePrimary only ih => exact ih below
  | loneFactor only ih => exact ih below
  | product first strength last hf hl | sum first strength last hf hl =>
    rw [openingsAt_binary first (by omega), hf below, hl below]

/-! Readings. -/

theorem afterGroups_leaves (tree : TreeOf category nesting e) (n : Nat) (rest : List Token) :
    afterGroups (n + 1) (e.leaves ++ rest) = afterGroups (n + 1) rest := by
  induction tree generalizing n rest with
  | number kind => simp [Expr.leaves, afterGroups, kind]
  | @group nesting opening closing inside opens inner closes ih =>
    have within := ih (n + 1) (closing :: rest)
    simp only [Expr.leaves, List.cons_append, List.append_assoc, List.nil_append]
    rw [afterGroups, if_pos opens, within, afterGroups, if_neg (by simp [closes]), if_pos closes]
  | lonePrimary only ih => exact ih n rest
  | loneFactor only ih => exact ih n rest
  | @product nesting left right operator first strength last hf hl
  | @sum nesting left right operator first strength last hf hl =>
    have noOpening : operator.kind ≠ .openParenthesis := Kind.ne_of_binds (by omega) rfl
    have noClosing : operator.kind ≠ .closeParenthesis := Kind.ne_of_binds (by omega) rfl
    rw [Expr.leaves, List.append_assoc, hf, List.cons_append, afterGroups, if_neg noOpening,
      if_neg noClosing, hl]

def tooDeep (count : Nat) : List Diagnostic := List.replicate count (.nestingTooDeep maxNesting)

/-- The tokens of a tree are read as what is left of it, with a report for each group cut out. -/
theorem TreeOf.reads_pruned (tree : TreeOf category nesting e) (stop : Token)
    (allowance depth : Nat) (rest : List Token)
    (complete : category = .term → leadingStrength rest ≠ 2) :
    Reads stop category allowance (e.leaves ++ rest)
      { expr := e.pruned allowance
        reports := tooDeep (openingsAt (allowance + depth) depth e.leaves)
        rest } := by
  induction tree generalizing allowance depth rest with
  | @number nesting t kind =>
    have read : (numberRule stop).read (t :: rest) = { expr := .number t, rest } := by
      simp [numberRule, expect, kind]
    have quiet : openingsAt (allowance + depth) depth (Expr.number t).leaves = 0 := by
      simp [Expr.leaves, openingsAt, kind]
    rw [quiet, Expr.pruned_number, Expr.leaves, tooDeep, List.replicate_zero, ← read]
    exact .number (by simp [kind])
  | @group nesting opening closing inside opens inner closes ih =>
    have closed : leadingStrength (closing :: rest) = 0 := by
      simp [leadingStrength, closes, Kind.binaryPrecedence]
    have line : (Expr.group opening inside closing).leaves ++ rest =
        opening :: (inside.leaves ++ closing :: rest) := by simp [Expr.leaves]
    rw [line, openingsAt_group opens inner closes]
    cases allowance with
    | zero =>
      have behind : afterGroups 1 (inside.leaves ++ closing :: rest) = rest := by
        rw [afterGroups_leaves inner, afterGroups, if_neg (by simp [closes]), if_pos closes,
          afterGroups]
      have skipped : Reads stop .primary 0 (opening :: (inside.leaves ++ closing :: rest))
          (skippedGroup opening (inside.leaves ++ closing :: rest)) := .skipped opens
      rw [skippedGroup, behind] at skipped
      rw [openingsAt_below inner (by omega), if_pos (by omega)]
      exact skipped
    | succ allowance =>
      have within := ih allowance (depth + 1) (closing :: rest) (by simp [closed])
      have whole := Reads.group opens within closed
      have level : allowance + 1 + depth = allowance + (depth + 1) := by omega
      rw [if_neg (by omega), Nat.zero_add, level]
      simpa [Reading.enclose, expect, closes, Expr.pruned] using whole
  | lonePrimary only ih => exact .lonePrimary (ih allowance depth rest (by simp))
  | @product nesting left right operator first strength last hf hl =>
    have before := hf allowance depth (operator :: (right.leaves ++ rest)) (by simp)
    have whole := Reads.product before rfl strength (hl allowance depth rest (by simp))
    rw [openingsAt_binary first (by omega), Expr.pruned_binary]
    simpa [Reading.join, Expr.leaves, tooDeep] using whole
  | loneFactor only ih => exact .loneFactor (ih allowance depth rest (by simp)) (complete rfl)
  | @sum nesting left right operator first strength last hf hl =>
    have next : leadingStrength (operator :: (right.leaves ++ rest)) ≠ 2 := by
      simp [leadingStrength, strength]
    have before := hf allowance depth (operator :: (right.leaves ++ rest)) fun _ => next
    have whole := Reads.sum before rfl strength (hl allowance depth rest (by simp)) (complete rfl)
    rw [openingsAt_binary first (by omega), Expr.pruned_binary]
    simpa [Reading.join, Expr.leaves, tooDeep] using whole

/-! Lines. -/

def Expr.wrapped (t : Token) : Nat → Expr
  | 0 => number t
  | depth + 1 => group ⟨.openParenthesis, 0, some "(", none⟩ (wrapped t depth)
      ⟨.closeParenthesis, 0, some ")", none⟩

theorem Expr.spelled_wrapped {t : Token} (spells : t.SpellsNumber) (depth : Nat) :
    (wrapped t depth).Spelled := by
  induction depth with
  | zero => exact spells
  | succ depth ih => exact ⟨⟨rfl, '(', rfl, rfl⟩, ih, ⟨rfl, ')', rfl, rfl⟩⟩

def deepSum : Expr :=
  .binary (.wrapped ⟨.number, 0, some "1", some 1⟩ 101) ⟨.plus, 0, some "+", none⟩
    (.wrapped ⟨.number, 0, some "2", some 2⟩ 101)

/-- Of a word of the grammar, however deep its groups are nested, the tree is kept but for the
groups inside a hundred others. Each of these leaves a number without text and one report. -/
theorem deep_groups_are_cut_out {s : String} {nesting : Nat} (lexical : lexicalReports s = [])
    (word : Derives .term nesting ((grammarTokens s).map Token.kind)) :
    ∃ e, (∀ other, (∃ deep, TreeOf .term deep other) ∧ other.leaves = grammarTokens s ↔
        other = e) ∧
      parse s =
        { diagnostics := tooDeep (openingsAt maxNesting 0 (grammarTokens s))
          root := e.pruned maxNesting
          endOfFile := endToken s.length } ∧
      (parse s).diagnostics.messages =
        List.replicate (openingsAt maxNesting 0 (grammarTokens s))
          "ERROR: Parentheses nested deeper than 100 levels" := by
  obtain ⟨e, tree, leaves⟩ := word.exists_tree rfl
  have reads := tree.reads_pruned (endToken s.length) maxNesting 0 [] (by simp [leadingStrength])
  rw [List.append_nil, leaves] at reads
  have reading : lineReading s = _ := reads_term_iff.mp ⟨reads, rfl⟩
  have parsed : parse s =
      { diagnostics := tooDeep (openingsAt maxNesting 0 (grammarTokens s))
        root := e.pruned maxNesting
        endOfFile := endToken s.length } := by
    rw [parse_eq, reading, lexical]
    simp [expect, endToken]
  refine ⟨e, fun other => ?_, parsed, ?_⟩
  · constructor
    · rintro ⟨⟨deep, others⟩, same⟩
      exact others.eq_of_leaves tree (same.trans leaves.symm)
    · rintro rfl
      exact ⟨⟨nesting, tree⟩, leaves⟩
  · rw [parsed]
    simp only [Log.messages, tooDeep, List.map_replicate, message_nestingTooDeep]

theorem groups_of_deep_sum_are_cut_out :
    lexicalReports deepSum.text = [] ∧
      Derives .term deepSum.nesting ((grammarTokens deepSum.text).map Token.kind) ∧
      (parse deepSum.text).diagnostics.messages =
        List.replicate 2 "ERROR: Parentheses nested deeper than 100 levels" := by
  have one := Token.spellsNumber_digit '1' 0 1 rfl (by decide +kernel)
  have two := Token.spellsNumber_digit '2' 0 2 rfl (by decide +kernel)
  have spelled : deepSum.Spelled :=
    ⟨Expr.spelled_wrapped one 101, ⟨rfl, '+', rfl, rfl⟩, Expr.spelled_wrapped two 101⟩
  obtain ⟨lexical, word⟩ := word_of_text (by decide +kernel) spelled
  have twice : openingsAt maxNesting 0 (grammarTokens deepSum.text) = 2 := by
    rw [(line_of_text spelled).1]
    decide +kernel
  obtain ⟨_, _, _, messages⟩ := deep_groups_are_cut_out lexical word
  rw [twice] at messages
  exact ⟨lexical, word, messages⟩

end LineCalc.Syntax
