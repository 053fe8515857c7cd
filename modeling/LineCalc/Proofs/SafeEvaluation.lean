import LineCalc.Line
import LineCalc.Proofs.LineTrees
import LineCalc.Proofs.StackEvaluation

/-!
Evaluation of the tree of a line is safe. A tree of the grammar gives a word, divides by zero or
meets a number without a value; where nothing was reported every number has one.
-/
namespace LineCalc
open Syntax

theorem Numeral.int32?_inRange {text : String} {n : Int} (read : Numeral.int32? text = some n) :
    Word.InRange n := by
  have kept := (Option.filter_eq_some_iff.mp read).2
  simpa using kept

namespace Evaluation

def Ends (numbers : List Token) : Except Fault Int → Prop
  | .ok n => Word.InRange n
  | .error .divisionByZero => True
  | .error (.valuelessNumber t) => t ∈ numbers ∧ t.value = none
  | .error _ => False

theorem Ends.mono {fewer more : List Token} {result : Except Fault Int} (ends : Ends fewer result)
    (subset : fewer ⊆ more) : Ends more result := by
  match result with
  | .ok n => exact ends
  | .error .divisionByZero => trivial
  | .error (.valuelessNumber t) => exact ⟨subset ends.1, ends.2⟩

theorem Ends.cases {numbers : List Token} {result : Except Fault Int} (ends : Ends numbers result) :
    (∃ n, result = .ok n ∧ Word.InRange n) ∨ result = .error .divisionByZero ∨
      ∃ t ∈ numbers, t.value = none ∧ result = .error (.valuelessNumber t) := by
  match result with
  | .ok n => exact .inl ⟨n, rfl, ends⟩
  | .error .divisionByZero => exact .inr (.inl rfl)
  | .error (.valuelessNumber t) => exact .inr (.inr ⟨t, ends.1, ends.2, rfl⟩)

theorem numberValue_ends {t : Token} (range : ∀ n, t.value = some n → Word.InRange n) :
    Ends [t] (numberValue t) := by
  unfold numberValue
  cases value : t.value with
  | some n => exact range n value
  | none => exact ⟨List.mem_singleton_self t, value⟩

theorem combine_ends {operator : Kind} (strong : 0 < operator.binaryPrecedence) (left right : Int)
    (numbers : List Token) : Ends numbers (combine operator left right) := by
  rcases combine_operator strong left right with fault | ⟨value, combined, range⟩
  · rw [fault]
    trivial
  · rw [combined]
    exact range

theorem result_ends {e : Expr} (shape : e.WellShaped)
    (range : ∀ t ∈ e.numbers, ∀ n, t.value = some n → Word.InRange n) :
    Ends e.numbers (result e) := by
  induction e with
  | number t => exact numberValue_ends (range t (List.mem_singleton_self t))
  | group o e c ih => exact ih shape range
  | binary l op r hl hr =>
    obtain ⟨strong, _, _, leftShape, rightShape⟩ := shape
    obtain ⟨leftRange, rightRange⟩ := List.forall_mem_append.mp range
    have left := (hl leftShape leftRange).mono (List.subset_append_left l.numbers r.numbers)
    have right := (hr rightShape rightRange).mono (List.subset_append_right l.numbers r.numbers)
    rw [result_binary]
    cases first : result l with
    | error fault => rwa [first] at left
    | ok m =>
      cases second : result r with
      | error fault => rwa [second] at right
      | ok n => exact combine_ends strong m n _
  | unary op e ih => exact shape.elim

end Evaluation

variable {s : String}

theorem grammarTokens_value {t : Token} (member : t ∈ grammarTokens s) {n : Int}
    (value : t.value = some n) : Word.InRange n := by
  have written := tokenize_values s t (List.mem_filter.mp member).1
  rw [value] at written
  split at written
  · exact Numeral.int32?_inRange written.symm
  · simp at written

theorem leaves_value {t : Token} (member : t ∈ (parse s).root.leaves) {n : Int}
    (value : t.value = some n) : Word.InRange n := by
  rw [parse_eq] at member
  rcases (lineReading_reads s).leaves_from rfl t member with read | made
  · exact grammarTokens_value read value
  · rw [made] at value
    simp [Token.synthesized] at value

theorem root_ends (s : String) :
    Evaluation.Ends (parse s).root.numbers (parse s).root.evaluate := by
  rw [Evaluation.evaluate_eq_result]
  apply Evaluation.result_ends (parse_treeOf s).wellShaped
  intro t member n value
  exact leaves_value ((parse s).root.numbers_subset_leaves member) value

theorem numbers_value_of_clean (clean : (parse s).diagnostics = []) {t : Token}
    (member : t ∈ (parse s).root.numbers) : t.value ≠ none := by
  have kind := (parse_treeOf s).numbers_kind t member
  have leaf := (parse s).root.numbers_subset_leaves member
  rw [leaves_of_clean clean] at leaf
  have good := (lexicalReports_eq_nil_iff s).mp (lineReading_of_clean clean).1
  exact (good t (List.mem_filter.mp leaf).1).2 kind

theorem root_ends_of_clean (clean : (parse s).diagnostics = []) :
    (∃ n, (parse s).root.evaluate = .ok n ∧ Word.InRange n) ∨
      (parse s).root.evaluate = .error .divisionByZero := by
  rcases (root_ends s).cases with value | zero | ⟨t, member, valueless, _⟩
  · exact .inl value
  · exact .inr zero
  · exact absurd valueless (numbers_value_of_clean clean member)

theorem evaluateLine_of_value (clean : (parse s).diagnostics = []) {n : Int}
    (value : (parse s).root.evaluate = .ok n) : evaluateLine s = .ok ⟨parse s, .value n⟩ := by
  have evaluable : (parse s).isEvaluable = true := by simp [Tree.isEvaluable, clean]
  simp [evaluateLine, evaluateTree, evaluable, value]

theorem evaluateLine_of_fault (clean : (parse s).diagnostics = [])
    (fault : (parse s).root.evaluate = .error .divisionByZero) :
    evaluateLine s = .ok ⟨parse s, .divisionByZero⟩ := by
  have evaluable : (parse s).isEvaluable = true := by simp [Tree.isEvaluable, clean]
  simp [evaluateLine, evaluateTree, evaluable, fault]

theorem evaluateLine_of_clean (clean : (parse s).diagnostics = []) :
    (∃ n, evaluateLine s = .ok ⟨parse s, .value n⟩ ∧ (parse s).root.evaluate = .ok n ∧
        Word.InRange n) ∨
      evaluateLine s = .ok ⟨parse s, .divisionByZero⟩ ∧
        (parse s).root.evaluate = .error .divisionByZero := by
  rcases root_ends_of_clean clean with ⟨n, value, range⟩ | fault
  · exact .inl ⟨n, evaluateLine_of_value clean value, value, range⟩
  · exact .inr ⟨evaluateLine_of_fault clean fault, fault⟩

theorem evaluateLine_of_diagnostics (reported : (parse s).diagnostics ≠ []) :
    evaluateLine s = .ok ⟨parse s, .rejected (parse s).diagnostics⟩ := by
  have refused : (parse s).isEvaluable = false := by simpa [Tree.isEvaluable] using reported
  simp [evaluateLine, evaluateTree, refused]

/-- A line always has an outcome, which is just one of a word, a fault and some diagnostics. The
evaluation of a tree without diagnostics can only divide by zero, and that of any tree of a line can
besides only meet a number without a value. -/
theorem line_evaluation_is_safe (s : String) :
    (∃ outcome, evaluateLine s = .ok ⟨parse s, outcome⟩ ∧
      ((∃ n, outcome.value? = some n ∧ Word.InRange n) ∧ outcome.fault? = none ∧
          outcome.diagnostics = [] ∨
        outcome.value? = none ∧ outcome.fault? ≠ none ∧ outcome.diagnostics = [] ∨
        outcome.value? = none ∧ outcome.fault? = none ∧ outcome.diagnostics ≠ [])) ∧
    ((parse s).diagnostics = [] →
      (∃ n, (parse s).root.evaluate = .ok n ∧ Word.InRange n) ∨
        (parse s).root.evaluate = .error .divisionByZero) ∧
    ((∃ n, (parse s).root.evaluate = .ok n ∧ Word.InRange n) ∨
      (parse s).root.evaluate = .error .divisionByZero ∨
      ∃ t ∈ (parse s).root.leaves, t.kind = .number ∧ t.value = none ∧
        (parse s).root.evaluate = .error (.valuelessNumber t)) := by
  refine ⟨?_, root_ends_of_clean, ?_⟩
  · by_cases clean : (parse s).diagnostics = []
    · rcases evaluateLine_of_clean clean with ⟨n, line, _, range⟩ | ⟨line, _⟩
      · exact ⟨.value n, line, .inl ⟨⟨n, rfl, range⟩, rfl, rfl⟩⟩
      · exact ⟨.divisionByZero, line, .inr (.inl ⟨rfl, by simp [Outcome.fault?], rfl⟩)⟩
    · exact ⟨_, evaluateLine_of_diagnostics clean, .inr (.inr ⟨rfl, rfl, clean⟩)⟩
  · rcases (root_ends s).cases with value | zero | ⟨t, member, valueless, fault⟩
    · exact .inl value
    · exact .inr (.inl zero)
    · have kind := (parse_treeOf s).numbers_kind t member
      have leaf := (parse s).root.numbers_subset_leaves member
      exact .inr (.inr ⟨t, leaf, kind, valueless, fault⟩)

theorem evaluation_of_a_quotient_is_safe :
    (parse "7 / (3 - 3)").diagnostics = [] ∧
      ((∃ n, (parse "7 / (3 - 3)").root.evaluate = .ok n ∧ Word.InRange n) ∨
        (parse "7 / (3 - 3)").root.evaluate = .error .divisionByZero) :=
  have clean : (parse "7 / (3 - 3)").diagnostics = [] := by decide +kernel
  ⟨clean, (line_evaluation_is_safe "7 / (3 - 3)").2.1 clean⟩

end LineCalc
