import LineCalc.Proofs.JoinedLines

/-!
Lines joined by a plus sign. The operands of the second line go, one by one, to the right of the
whole first line, so the tree is not that of a sum of two groups; but as addition of words is
associative, and subtraction goes along with it, the value is.
-/
namespace LineCalc

namespace Word

theorem wrap_add_wrap (m n : Int) : wrap (m + wrap n) = wrap (m + n) := Int.add_bmod_bmod

theorem wrap_wrap_add (m n : Int) : wrap (wrap m + n) = wrap (m + n) := Int.bmod_add_bmod

theorem wrap_wrap_sub (m n : Int) : wrap (wrap m - n) = wrap (m - n) := Int.bmod_sub_bmod

end Word

namespace Syntax

namespace Expr

/-- An expression that goes on with a sign of addition and another expression: where that one is a
sum its first operand comes first. -/
def extend (front : Expr) (operator : Token) : Expr → Expr
  | binary l op r =>
    if op.kind.binaryPrecedence = 1 then binary (front.extend operator l) op r
    else binary front operator (binary l op r)
  | e => binary front operator e

theorem leaves_extend (front : Expr) (operator : Token) (e : Expr) :
    (front.extend operator e).leaves = front.leaves ++ operator :: e.leaves := by
  induction e with
  | number t => rfl
  | group o e c ih => rfl
  | unary op e ih => rfl
  | binary l op r hl hr =>
    rw [extend]
    split
    · simp [leaves, hl]
    · rfl

theorem extend_of_stronger (front : Expr) (operator : Token) {e : Expr} (strong : 2 ≤ e.strength) :
    front.extend operator e = binary front operator e := by
  cases e with
  | binary l op r =>
    have product : op.kind.binaryPrecedence ≠ 1 := by
      simp only [strength] at strong
      omega
    rw [extend, if_neg product]
  | _ => rfl

end Expr

variable {nesting : Nat} {front e : Expr} {operator : Token}

theorem TreeOf.extend (first : TreeOf .term nesting front)
    (strength : operator.kind.binaryPrecedence = 1) (tree : TreeOf .term nesting e) :
    TreeOf .term nesting (front.extend operator e) := by
  induction e with
  | binary l op r hl hr =>
    cases tree with
    | loneFactor only =>
      rw [Expr.extend_of_stronger front operator only.strength_le]
      exact .sum first strength only
    | sum left weak right =>
      rw [Expr.extend, if_pos weak]
      exact .sum (hl left) weak right
  | _ =>
    cases tree with
    | loneFactor only => exact .sum first strength only

end Syntax

namespace Evaluation
open Syntax

theorem combine_wrap_add {sign : Kind} (weak : sign.binaryPrecedence = 1) (k m n : Int) :
    combine sign (Word.wrap (k + m)) n =
      match combine sign m n with
      | .error fault => .error fault
      | .ok value => combine .plus k value := by
  cases sign with
  | plus => simp [combine, Word.wrap_wrap_add, Word.wrap_add_wrap, Int.add_assoc]
  | minus => simp [combine, Word.wrap_wrap_sub, Word.wrap_add_wrap, Int.add_sub_assoc]
  | _ => simp [Kind.binaryPrecedence] at weak

theorem result_extend {nesting : Nat} (front : Expr) {operator : Token} {e : Expr}
    (plus : operator.kind = .plus) (tree : TreeOf .term nesting e) :
    result (front.extend operator e) = result (.binary front operator e) := by
  induction e with
  | binary l op r hl hr =>
    cases tree with
    | loneFactor only => rw [Expr.extend_of_stronger front operator only.strength_le]
    | sum left weak right =>
      rw [Expr.extend, if_pos weak, result_binary, hl left]
      simp only [result_binary, plus]
      cases result front with
      | error fault => rfl
      | ok k =>
        cases result l with
        | error fault => rfl
        | ok m =>
          cases result r with
          | error fault => rfl
          | ok n => exact combine_wrap_add weak k m n
  | _ => rfl

end Evaluation

namespace Syntax

variable {a b : String}

def plusAt (position : Nat) : Token := ⟨.plus, position, some "+", none⟩

theorem parse_joined_sum (cleanA : (parse a).diagnostics = [])
    (cleanB : (parse b).diagnostics = []) :
    parse (a ++ "+" ++ b) =
      { diagnostics := []
        root := (parse a).root.extend (plusAt a.length)
          ((parse b).root.mapTokens (Token.shift (a.length + 1)))
        endOfFile := endToken (a ++ "+" ++ b).length } := by
  have second : TreeOf .term maxNesting ((parse b).root.mapTokens (Token.shift (a.length + 1))) :=
    (parse_treeOf b).mapTokens fun t => rfl
  have sign : (plusAt a.length).kind.binaryPrecedence = 1 := rfl
  have leaves := (parse a).root.leaves_extend (plusAt a.length)
    ((parse b).root.mapTokens (Token.shift (a.length + 1)))
  rw [Expr.leaves_mapTokens, leaves_of_clean cleanA, leaves_of_clean cleanB] at leaves
  have around := grammarTokens_around_sign (c := '+') rfl a b
  have line : grammarTokens (a ++ "+" ++ b) = grammarTokens a ++ plusAt a.length ::
      (grammarTokens b).map (Token.shift (a.length + 1)) := around.1
  have lexical : lexicalReports (a ++ "+" ++ b) = [] := by
    refine around.2.trans ?_
    rw [(lineReading_of_clean cleanA).1, (lineReading_of_clean cleanB).1]
    rfl
  rw [parse_of_tree ((parse_treeOf a).extend sign second) (leaves.trans line.symm), lexical]

theorem result_joined_sum (cleanA : (parse a).diagnostics = [])
    (cleanB : (parse b).diagnostics = []) :
    (parse (a ++ "+" ++ b)).root.evaluate =
      match (parse a).root.evaluate, (parse b).root.evaluate with
      | .ok m, .ok n => .ok (Word.wrap (m + n))
      | _, _ => .error .divisionByZero := by
  have second : TreeOf .term maxNesting ((parse b).root.mapTokens (Token.shift (a.length + 1))) :=
    (parse_treeOf b).mapTokens fun t => rfl
  have sign : (plusAt a.length).kind = .plus := rfl
  rw [parse_joined_sum cleanA cleanB]
  simp only [Evaluation.evaluate_eq_result]
  rw [Evaluation.result_extend (parse a).root sign second, Evaluation.result_binary,
    Evaluation.result_mapTokens (f := Token.shift (a.length + 1)) (fun _ => rfl) fun _ => rfl]
  simp only [← Evaluation.evaluate_eq_result]
  rcases root_ends_of_clean cleanA with ⟨m, first, _⟩ | first
  · rcases root_ends_of_clean cleanB with ⟨n, second, _⟩ | second
    · rw [first, second]
      rfl
    · rw [first, second]
      rfl
  · rw [first]

end Syntax

open Syntax

/-- Joined by a plus sign two lines without diagnostics are one, and its value is the sum of theirs.
It divides by zero exactly if one of them does. -/
theorem evaluateLine_joined_sum {a b : String} (cleanA : (parse a).diagnostics = [])
    (cleanB : (parse b).diagnostics = []) :
    (parse (a ++ "+" ++ b)).diagnostics = [] ∧
      ∃ first second outcome, evaluateLine a = .ok ⟨parse a, first⟩ ∧
        evaluateLine b = .ok ⟨parse b, second⟩ ∧
        evaluateLine (a ++ "+" ++ b) = .ok ⟨parse (a ++ "+" ++ b), outcome⟩ ∧
        (outcome = .divisionByZero ↔ first = .divisionByZero ∨ second = .divisionByZero) ∧
        (outcome ≠ .divisionByZero →
          ∃ m n, first = .value m ∧ second = .value n ∧ outcome = .value (Word.wrap (m + n))) := by
  have clean : (parse (a ++ "+" ++ b)).diagnostics = [] := by rw [parse_joined_sum cleanA cleanB]
  refine ⟨clean, ?_⟩
  have result := result_joined_sum cleanA cleanB
  rcases evaluateLine_of_clean cleanA with ⟨m, lineA, first, _⟩ | ⟨lineA, first⟩
  · rcases evaluateLine_of_clean cleanB with ⟨n, lineB, second, _⟩ | ⟨lineB, second⟩
    · rw [first, second] at result
      refine ⟨.value m, .value n, _, lineA, lineB, evaluateLine_of_value clean result, ?_, ?_⟩
      · simp
      · exact fun _ => ⟨m, n, rfl, rfl, rfl⟩
    · rw [first, second] at result
      exact ⟨.value m, .divisionByZero, _, lineA, lineB, evaluateLine_of_fault clean result,
        by simp, fun value => absurd rfl value⟩
  · obtain ⟨second, lineB⟩ : ∃ second, evaluateLine b = .ok ⟨parse b, second⟩ := by
      rcases evaluateLine_of_clean cleanB with ⟨n, lineB, _⟩ | ⟨lineB, _⟩
      · exact ⟨_, lineB⟩
      · exact ⟨_, lineB⟩
    rw [first] at result
    exact ⟨.divisionByZero, second, _, lineA, lineB, evaluateLine_of_fault clean result,
      by simp, fun value => absurd rfl value⟩

/-- The quotient stays one though the signs around it are taken from left to right, and the sum is
past the highest word. -/
theorem evaluateLine_joined_wrapping_sum :
    (parse "7*306783378 + 1").diagnostics = [] ∧ (parse "3 - 8/2 + 2").diagnostics = [] ∧
      evaluateLine ("7*306783378 + 1" ++ "+" ++ "3 - 8/2 + 2") =
        .ok ⟨parse ("7*306783378 + 1" ++ "+" ++ "3 - 8/2 + 2"), .value (-2147483648)⟩ := by
  have cleanA : (parse "7*306783378 + 1").diagnostics = [] := by decide +kernel
  have cleanB : (parse "3 - 8/2 + 2").diagnostics = [] := by decide +kernel
  have highest : evaluateLine "7*306783378 + 1" =
      .ok ⟨parse "7*306783378 + 1", .value 2147483647⟩ := by
    refine evaluateLine_of_value cleanA ?_
    rw [Evaluation.evaluate_eq_result]
    decide +kernel
  have one : evaluateLine "3 - 8/2 + 2" = .ok ⟨parse "3 - 8/2 + 2", .value 1⟩ := by
    refine evaluateLine_of_value cleanB ?_
    rw [Evaluation.evaluate_eq_result]
    decide +kernel
  obtain ⟨_, first, second, outcome, lineA, lineB, whole, faults, value⟩ :=
    evaluateLine_joined_sum cleanA cleanB
  obtain rfl : first = .value 2147483647 := by simpa [highest] using lineA.symm
  obtain rfl : second = .value 1 := by simpa [one] using lineB.symm
  have noFault : outcome ≠ .divisionByZero := fun fault => by simpa using faults.mp fault
  obtain ⟨m, n, left, right, rfl⟩ := value noFault
  obtain rfl : 2147483647 = m := Outcome.value.inj left
  obtain rfl : 1 = n := Outcome.value.inj right
  have lowest : Word.wrap (2147483647 + 1) = -2147483648 := by decide
  rw [lowest] at whole
  exact ⟨cleanA, cleanB, whole⟩

end LineCalc
