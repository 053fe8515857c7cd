import LineCalc.ExactValue
import LineCalc.Proofs.StackEvaluation
import LineCalc.Syntax.Parser
import Mathlib.Data.Int.ModEq

/-!
Sums, differences and products in words against the same in unbounded integers. A word differs from
the exact value by a multiple of two to the 32nd, however often it was wrapped on the way, and so it
is the one that the exact value wrapped once would be.
-/
namespace LineCalc

namespace Word

theorem wrap_modEq (n : Int) : wrap n ≡ n [ZMOD 2 ^ 32] := Int.bmod_emod

theorem eq_of_modEq {m n : Int} (first : InRange m) (second : InRange n)
    (same : m ≡ n [ZMOD 2 ^ 32]) : m = n := by
  unfold InRange lowest highest at first second
  unfold Int.ModEq at same
  omega

end Word

namespace Syntax.Expr

def IsArithmetic : Expr → Prop
  | number t => t.value ≠ none
  | group _ e _ => e.IsArithmetic
  | binary l op r => op.kind ∈ [Kind.plus, .minus, .star] ∧ l.IsArithmetic ∧ r.IsArithmetic
  | unary .. => False

instance decidableIsArithmetic : (e : Expr) → Decidable e.IsArithmetic
  | number t => inferInstanceAs (Decidable (t.value ≠ none))
  | group _ e _ => decidableIsArithmetic e
  | binary l _ r =>
    have := decidableIsArithmetic l
    have := decidableIsArithmetic r
    inferInstanceAs (Decidable (_ ∧ _ ∧ _))
  | unary .. => .isFalse id

/-- The root is an operator, or a number that is a word. A number by itself is not wrapped. -/
def WordAtRoot : Expr → Prop
  | number t => ∃ n ∈ t.value, Word.InRange n
  | binary .. => True
  | _ => False

instance decidableWordAtRoot : (e : Expr) → Decidable e.WordAtRoot
  | number t => inferInstanceAs (Decidable (∃ n ∈ t.value, Word.InRange n))
  | group .. | unary .. => .isFalse id
  | binary .. => .isTrue trivial

end Syntax.Expr

namespace Evaluation
open Syntax

variable {e : Expr}

theorem combine_modEq {operator : Kind} (arithmetic : operator ∈ [Kind.plus, .minus, .star])
    {left right left' right' : Int} (first : left ≡ left' [ZMOD 2 ^ 32])
    (second : right ≡ right' [ZMOD 2 ^ 32]) :
    ∃ n total, combine operator left right = .ok n ∧
      Expr.exactly operator left' right' = some total ∧ n ≡ total [ZMOD 2 ^ 32] := by
  cases operator with
  | plus => exact ⟨_, _, rfl, rfl, (Word.wrap_modEq _).trans (first.add second)⟩
  | minus => exact ⟨_, _, rfl, rfl, (Word.wrap_modEq _).trans (first.sub second)⟩
  | star => exact ⟨_, _, rfl, rfl, (Word.wrap_modEq _).trans (first.mul second)⟩
  | _ => simp at arithmetic

theorem result_modEq (arithmetic : e.IsArithmetic) :
    ∃ n total, result e = .ok n ∧ e.exactValue? = some total ∧ n ≡ total [ZMOD 2 ^ 32] := by
  induction e with
  | number t =>
    obtain ⟨n, value⟩ := Option.ne_none_iff_exists'.mp arithmetic
    exact ⟨n, n, by rw [result, numberValue, value], value, .rfl⟩
  | group o e c ih => exact ih arithmetic
  | binary l op r hl hr =>
    obtain ⟨operator, leftArithmetic, rightArithmetic⟩ := arithmetic
    obtain ⟨left, left', first, firstExact, firstSame⟩ := hl leftArithmetic
    obtain ⟨right, right', second, secondExact, secondSame⟩ := hr rightArithmetic
    obtain ⟨n, total, combined, exactly, same⟩ := combine_modEq operator firstSame secondSame
    refine ⟨n, total, ?_, ?_, same⟩
    · rw [result_binary, first, second]
      exact combined
    · simp [Expr.exactValue?, firstExact, secondExact, exactly]
  | unary op e ih => exact arithmetic.elim

theorem result_ungrouped (e : Expr) : result e.ungrouped = result e := by
  induction e with
  | group o e c ih => exact ih
  | _ => rfl

theorem result_inRange_of_wordAtRoot (root : e.WordAtRoot) {n : Int}
    (value : result e = .ok n) : Word.InRange n := by
  cases e with
  | number t =>
    obtain ⟨m, held, range⟩ := root
    rw [result, numberValue, Option.mem_def.mp held] at value
    obtain rfl := Except.ok.inj value
    exact range
  | binary l op r => exact result_binary_inRange value
  | group o e c | unary op e => exact root.elim

theorem evaluate_inRange_of_wordAtRoot (root : e.ungrouped.WordAtRoot) {n : Int}
    (value : e.evaluate = .ok n) : Word.InRange n := by
  rw [evaluate_eq_result, ← result_ungrouped] at value
  exact result_inRange_of_wordAtRoot root value

theorem evaluate_modEq (arithmetic : e.IsArithmetic) :
    ∃ n total, e.evaluate = .ok n ∧ e.exactValue? = some total ∧ n ≡ total [ZMOD 2 ^ 32] := by
  rw [evaluate_eq_result]
  exact result_modEq arithmetic

/-- Sums, differences and products of numbers have a value, which differs from the exact one by a
multiple of two to the 32nd. With an operator or a word at the root it is the one word that does, and
so the same for all such trees whose exact values differ by such a multiple, whatever their groups. -/
theorem wrapping_once_is_enough (e : Expr) (arithmetic : e.IsArithmetic) :
    ∃ n total, e.evaluate = .ok n ∧ e.exactValue? = some total ∧ n ≡ total [ZMOD 2 ^ 32] ∧
      (e.ungrouped.WordAtRoot →
        Word.InRange n ∧
        (∀ m, Word.InRange m → m ≡ total [ZMOD 2 ^ 32] → m = n) ∧
        ∀ (other : Expr) (otherTotal : Int), other.IsArithmetic →
          other.ungrouped.WordAtRoot → other.exactValue? = some otherTotal →
          otherTotal ≡ total [ZMOD 2 ^ 32] → other.evaluate = .ok n) := by
  obtain ⟨n, total, value, exactValue, same⟩ := evaluate_modEq arithmetic
  refine ⟨n, total, value, exactValue, same, fun root => ?_⟩
  have range := evaluate_inRange_of_wordAtRoot root value
  have only (m : Int) (inRange : Word.InRange m) (alike : m ≡ total [ZMOD 2 ^ 32]) : m = n :=
    Word.eq_of_modEq inRange range (alike.trans same.symm)
  refine ⟨range, only, fun other otherTotal otherArithmetic otherRoot otherValue alike => ?_⟩
  obtain ⟨m, _, evaluated, found, sameAsFound⟩ := evaluate_modEq otherArithmetic
  obtain rfl := Option.some.inj (found.symm.trans otherValue)
  have inRange := evaluate_inRange_of_wordAtRoot otherRoot evaluated
  rw [evaluated, only m inRange (sameAsFound.trans alike)]

theorem wrapping_once_is_enough_for_regrouped_sum :
    (parse "65536 * 65536 + 2147483647 + 1").root.IsArithmetic ∧
      (parse "1 + (2147483647 - 65536 * 65536)").root.IsArithmetic ∧
      (parse "65536 * 65536 + 2147483647 + 1").root.evaluate = .ok (-2147483648) ∧
      (parse "1 + (2147483647 - 65536 * 65536)").root.evaluate = .ok (-2147483648) := by
  have first : (parse "65536 * 65536 + 2147483647 + 1").root.IsArithmetic := by decide +kernel
  have second : (parse "1 + (2147483647 - 65536 * 65536)").root.IsArithmetic := by decide +kernel
  have total : (parse "65536 * 65536 + 2147483647 + 1").root.exactValue? = some 6442450944 := by
    decide +kernel
  have otherTotal : (parse "1 + (2147483647 - 65536 * 65536)").root.exactValue? =
      some (-2147483648) := by decide +kernel
  obtain ⟨n, _, value, found, _, unique⟩ := wrapping_once_is_enough _ first
  obtain rfl := Option.some.inj (total.symm.trans found)
  obtain ⟨_, only, alike⟩ := unique (by decide +kernel)
  obtain rfl := only (-2147483648) (by decide) (by decide)
  exact ⟨first, second, value, alike _ _ second (by decide +kernel) otherTotal (by decide)⟩

end Evaluation
end LineCalc
