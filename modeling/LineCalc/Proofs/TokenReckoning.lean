import LineCalc.Proofs.SafeEvaluation
import LineCalc.Reckoning

/-!
Reckoning on tokens is evaluation of the tree. Outside the groups of a tree no operator is weaker
than the tree itself, so the last one of the weakest strength is its root, with the tokens of its
operands on either side.
-/
namespace LineCalc.Reckoning
open Syntax

variable {category : Category} {nesting : Nat} {e : Expr}

/-! Cuts. -/

def openAfterAll (depth : Nat) (tokens : List Token) : Nat := tokens.foldl openAfter depth

theorem openAfterAll_cons (depth : Nat) (t : Token) (tokens : List Token) :
    openAfterAll depth (t :: tokens) = openAfterAll (openAfter depth t) tokens := rfl

theorem openAfterAll_append (depth : Nat) (front back : List Token) :
    openAfterAll depth (front ++ back) = openAfterAll (openAfterAll depth front) back :=
  List.foldl_append

theorem openAfter_operator {operator : Token} (strong : 0 < operator.kind.binaryPrecedence)
    (depth : Nat) : openAfter depth operator = depth := by
  unfold openAfter
  cases kind : operator.kind <;> simp_all [Kind.binaryPrecedence]

theorem openAfterAll_leaves (tree : TreeOf category nesting e) (depth : Nat) :
    openAfterAll depth e.leaves = depth := by
  induction tree generalizing depth with
  | number kind => simp [openAfterAll, Expr.leaves, openAfter, kind]
  | @group nesting opening closing inside opens inner closes ih =>
    have within := ih (depth + 1)
    rw [openAfterAll] at within
    simp [openAfterAll, Expr.leaves, within, openAfter, opens, closes]
  | lonePrimary only ih => exact ih depth
  | product first strength last hf hl | sum first strength last hf hl =>
    have before := hf depth
    have behind := hl depth
    rw [openAfterAll] at before behind
    rw [openAfterAll, Expr.leaves, List.foldl_append, before, List.foldl_cons,
      openAfter_operator (by omega), behind]
  | loneFactor only ih => exact ih depth

theorem cut?_append (strength depth : Nat) (front back : List Token) :
    cut? strength depth (front ++ back) =
      match cut? strength (openAfterAll depth front) back with
      | some cut => some { cut with left := front ++ cut.left }
      | none =>
        (cut? strength depth front).map fun cut => { cut with right := cut.right ++ back } := by
  induction front generalizing depth with
  | nil =>
    have depths : openAfterAll depth [] = depth := rfl
    rw [List.nil_append, depths]
    cases cut? strength depth back with
    | some cut => rfl
    | none => rfl
  | cons t rest ih =>
    have depths : openAfterAll depth (t :: rest) = openAfterAll (openAfter depth t) rest := rfl
    rw [List.cons_append, cut?, ih, depths, cut?]
    cases cut? strength (openAfterAll (openAfter depth t) rest) back with
    | some cut => rfl
    | none =>
      cases cut? strength (openAfter depth t) rest with
      | some cut => rfl
      | none =>
        by_cases here : depth = 0 ∧ t.kind.binaryPrecedence = strength
        · simp [here]
        · simp [here]

theorem cut?_operator {strength depth : Nat} {operator : Token} {rest : List Token}
    (strong : 0 < operator.kind.binaryPrecedence) (behind : cut? strength depth rest = none) :
    cut? strength depth (operator :: rest) =
      if depth = 0 ∧ operator.kind.binaryPrecedence = strength then some ⟨[], operator, rest⟩
      else none := by
  rw [cut?, openAfter_operator strong, behind]

theorem cut?_between {strength depth : Nat} {left right : Expr} {operator : Token}
    (tree : TreeOf category nesting left) (strong : 0 < operator.kind.binaryPrecedence)
    (behind : cut? strength depth right.leaves = none) :
    cut? strength depth (Expr.binary left operator right).leaves =
      if depth = 0 ∧ operator.kind.binaryPrecedence = strength then
        some ⟨left.leaves, operator, right.leaves⟩
      else (cut? strength depth left.leaves).map fun cut =>
        { cut with right := cut.right ++ operator :: right.leaves } := by
  rw [Expr.leaves, cut?_append, openAfterAll_leaves tree, cut?_operator strong behind]
  by_cases here : depth = 0 ∧ operator.kind.binaryPrecedence = strength
  · simp [here]
  · simp [here]

theorem cut?_within (tree : TreeOf category nesting e) (strength depth : Nat) :
    cut? strength (depth + 1) e.leaves = none := by
  induction tree generalizing depth with
  | number kind => simp [Expr.leaves, cut?]
  | @group nesting opening closing inside opens inner closes ih =>
    have opened : openAfter (depth + 1) opening = depth + 1 + 1 := by simp [openAfter, opens]
    rw [Expr.leaves, cut?, opened, cut?_append, openAfterAll_leaves inner, ih (depth + 1)]
    simp [cut?]
  | lonePrimary only ih => exact ih depth
  | product first strong last hf hl | sum first strong last hf hl =>
    rw [cut?_between first (by omega) (hl depth), hf depth]
    simp
  | loneFactor only ih => exact ih depth

/-- No operator outside the groups of a tree is weaker than its category. -/
theorem cut?_weaker (tree : TreeOf category nesting e) {strength : Nat} (positive : 0 < strength)
    (weaker : strength < category.strength) : cut? strength 0 e.leaves = none := by
  induction tree with
  | number kind => simp [Expr.leaves, cut?, kind, Kind.binaryPrecedence]; omega
  | @group nesting opening closing inside opens inner closes ih =>
    have opened : openAfter 0 opening = 0 + 1 := by simp [openAfter, opens]
    rw [Expr.leaves, cut?, opened, cut?_append, openAfterAll_leaves inner, cut?_within inner]
    simp [cut?, opens, Kind.binaryPrecedence]
    omega
  | lonePrimary only ih => exact ih (Nat.lt_succ_of_lt weaker)
  | product first strong last hf hl =>
    have other : strength ≠ 2 := Nat.ne_of_lt weaker
    rw [cut?_between first (by omega) (hl (Nat.lt_succ_of_lt weaker)), hf weaker]
    simp [strong, other.symm]
  | loneFactor only ih => exact ih (Nat.lt_succ_of_lt weaker)
  | sum first strong last hf hl =>
    simp only [Category.strength] at weaker
    omega

theorem lastApplied?_primary (tree : TreeOf .primary nesting e) : lastApplied? e.leaves = none := by
  rw [lastApplied?, cut?_weaker tree (by decide) (by decide),
    cut?_weaker tree (by decide) (by decide)]
  rfl

theorem lastApplied?_product {left right : Expr} {operator : Token}
    (first : TreeOf .factor nesting left) (strength : operator.kind.binaryPrecedence = 2)
    (last : TreeOf .primary nesting right) :
    lastApplied? (Expr.binary left operator right).leaves =
      some ⟨left.leaves, operator, right.leaves⟩ := by
  have noSum : cut? 1 0 (Expr.binary left operator right).leaves = none :=
    cut?_weaker (.product first strength last) (by decide) (by decide)
  have noProduct : cut? 2 0 right.leaves = none := cut?_weaker last (by decide) (by decide)
  rw [lastApplied?, noSum, cut?_between first (by omega) noProduct]
  simp [strength]

theorem lastApplied?_sum {left right : Expr} {operator : Token}
    (first : TreeOf .term nesting left) (strength : operator.kind.binaryPrecedence = 1)
    (last : TreeOf .factor nesting right) :
    lastApplied? (Expr.binary left operator right).leaves =
      some ⟨left.leaves, operator, right.leaves⟩ := by
  have noSum : cut? 1 0 right.leaves = none := cut?_weaker last (by decide) (by decide)
  rw [lastApplied?, cut?_between first (by omega) noSum]
  simp [strength]

/-! Words. -/

theorem toInt_ofInt_of_inRange {n : Int} (range : Word.InRange n) : (Int32.ofInt n).toInt = n := by
  obtain ⟨low, high⟩ := range
  unfold Word.lowest at low
  unfold Word.highest at high
  exact Int32.toInt_ofInt_of_le (by omega) (by omega)

theorem numberValue_eq_word {t : Token} (range : ∀ n, t.value = some n → Word.InRange n) :
    Evaluation.numberValue t = (numberWord t).map Int32.toInt := by
  unfold Evaluation.numberValue numberWord
  cases value : t.value with
  | some n => simp [Except.map, toInt_ofInt_of_inRange (range n value)]
  | none => rfl

/-- Wrapping the exact result and truncating the quotient is what machine words do. -/
theorem combine_eq_apply (operator : Kind) (left right : Int32) :
    Evaluation.combine operator left.toInt right.toInt =
      (apply operator left right).map Int32.toInt := by
  cases operator with
  | plus => simp [Evaluation.combine, apply, Except.map, Word.wrap]
  | minus => simp [Evaluation.combine, apply, Except.map, Word.wrap]
  | star => simp [Evaluation.combine, apply, Except.map, Word.wrap]
  | slash =>
    by_cases zero : right = 0
    · simp [Evaluation.combine, apply, Except.map, Word.divide?, zero]
    · have divisor : right.toInt ≠ 0 := fun none => zero (Int32.toInt_inj.mp none)
      simp [Evaluation.combine, apply, Except.map, Word.divide?, Word.wrap, zero, divisor]
  | _ => rfl

theorem reckon_cut {tokens : List Token} {cut : Cut} (found : lastApplied? tokens = some cut) :
    reckon tokens =
      match reckon cut.left with
      | .error fault => .error fault
      | .ok l =>
        match reckon cut.right with
        | .error fault => .error fault
        | .ok r => apply cut.operator.kind l r := by
  rw [reckon]
  split
  · rename_i other here
    obtain rfl := Option.some.inj (found.symm.trans here)
    cases reckon cut.left with
    | error fault => rfl
    | ok l =>
      cases reckon cut.right with
      | error fault => rfl
      | ok r => rfl
  · rename_i here
    simp [found] at here

theorem reckon_number {t : Token} (kind : t.kind = .number) : reckon [t] = numberWord t := by
  have alone : lastApplied? [t] = none :=
    lastApplied?_primary (TreeOf.number kind : TreeOf .primary 0 (.number t))
  rw [reckon]
  split
  · rename_i here
    simp [alone] at here
  · simp [kind]

theorem reckon_group {opening closing : Token} {inside : Expr}
    (tree : TreeOf .primary nesting (.group opening inside closing)) :
    reckon (Expr.group opening inside closing).leaves = reckon inside.leaves := by
  have whole := lastApplied?_primary tree
  have opens : opening.kind = .openParenthesis := tree.enclosed.1
  rw [Expr.leaves] at whole ⊢
  rw [reckon]
  split
  · rename_i here
    simp [whole] at here
  · simp [opens]

theorem reckon_binary {left right : Expr} {operator : Token}
    (found : lastApplied? (Expr.binary left operator right).leaves =
      some ⟨left.leaves, operator, right.leaves⟩)
    (first : Evaluation.result left = (reckon left.leaves).map Int32.toInt)
    (last : Evaluation.result right = (reckon right.leaves).map Int32.toInt) :
    Evaluation.result (.binary left operator right) =
      (reckon (Expr.binary left operator right).leaves).map Int32.toInt := by
  rw [Evaluation.result_binary, reckon_cut found, first, last]
  cases reckon left.leaves with
  | error fault => rfl
  | ok l =>
    cases reckon right.leaves with
    | error fault => rfl
    | ok r => exact combine_eq_apply operator.kind l r

theorem reckon_leaves (tree : TreeOf category nesting e)
    (range : ∀ t ∈ e.numbers, ∀ n, t.value = some n → Word.InRange n) :
    Evaluation.result e = (reckon e.leaves).map Int32.toInt := by
  induction tree with
  | @number nesting t kind =>
    rw [Expr.leaves, reckon_number kind, Evaluation.result]
    exact numberValue_eq_word (range t (List.mem_singleton_self t))
  | @group nesting opening closing inside opens inner closes ih =>
    rw [reckon_group (.group opens inner closes), Evaluation.result]
    exact ih range
  | lonePrimary only ih => exact ih range
  | product first strength last hf hl =>
    obtain ⟨left, right⟩ := List.forall_mem_append.mp range
    exact reckon_binary (lastApplied?_product first strength last) (hf left) (hl right)
  | loneFactor only ih => exact ih range
  | sum first strength last hf hl =>
    obtain ⟨left, right⟩ := List.forall_mem_append.mp range
    exact reckon_binary (lastApplied?_sum first strength last) (hf left) (hl right)

/-- What becomes of a line without diagnostics is what reckoning on its tokens says. -/
theorem evaluateLine_reckons {s : String} (clean : (parse s).diagnostics = []) :
    ∃ outcome, evaluateLine s = .ok ⟨parse s, outcome⟩ ∧
      match reckon (grammarTokens s) with
      | .ok n => outcome.value? = some n.toInt ∧ outcome.fault? = none
      | .error fault =>
        fault = .divisionByZero ∧ outcome.value? = none ∧
          outcome.fault? = some "ERROR: Division by zero" := by
  have range : ∀ t ∈ (parse s).root.numbers, ∀ n, t.value = some n → Word.InRange n := by
    intro t member n value
    exact leaves_value ((parse s).root.numbers_subset_leaves member) value
  have agree := reckon_leaves (parse_treeOf s) range
  rw [leaves_of_clean clean, ← Evaluation.evaluate_eq_result] at agree
  rcases evaluateLine_of_clean clean with ⟨n, line, result, _⟩ | ⟨line, result⟩
  · refine ⟨.value n, line, ?_⟩
    rw [result] at agree
    cases reckoned : reckon (grammarTokens s) with
    | ok word =>
      rw [reckoned] at agree
      exact ⟨congrArg some (Except.ok.inj agree), rfl⟩
    | error fault =>
      rw [reckoned] at agree
      simp [Except.map] at agree
  · refine ⟨.divisionByZero, line, ?_⟩
    rw [result] at agree
    cases reckoned : reckon (grammarTokens s) with
    | ok word =>
      rw [reckoned] at agree
      simp [Except.map] at agree
    | error fault =>
      rw [reckoned] at agree
      exact ⟨(Except.error.inj agree).symm, rfl, rfl⟩

theorem evaluateLine_reckons_a_wrapping_product :
    (parse "2 - 8 / (65536 * 65536 - 1) - 1").diagnostics = [] ∧
      ∃ outcome, evaluateLine "2 - 8 / (65536 * 65536 - 1) - 1" =
          .ok ⟨parse "2 - 8 / (65536 * 65536 - 1) - 1", outcome⟩ ∧
        outcome.value? = some 9 ∧ outcome.fault? = none := by
  have clean : (parse "2 - 8 / (65536 * 65536 - 1) - 1").diagnostics = [] := by decide +kernel
  have nine : (reckon (grammarTokens "2 - 8 / (65536 * 65536 - 1) - 1")).toOption = some 9 := by
    decide +kernel
  obtain ⟨outcome, line, agree⟩ := evaluateLine_reckons clean
  refine ⟨clean, outcome, line, ?_⟩
  cases reckoned : reckon (grammarTokens "2 - 8 / (65536 * 65536 - 1) - 1") with
  | ok n =>
    rw [reckoned] at nine agree
    obtain rfl : n = 9 := Option.some.inj nine
    exact agree
  | error fault =>
    rw [reckoned] at nine
    simp [Except.toOption] at nine

end LineCalc.Reckoning
