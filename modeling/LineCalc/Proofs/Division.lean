import LineCalc.Proofs.StackEvaluation
import LineCalc.Syntax.Parser

/-!
Division toward zero, on integers of any size and in words of 32 bits. The quotient is known by what
is left over. Of two words it is a word in all cases but one, the lowest word divided by minus one,
and evaluation of a slash gives what a machine divides it to.
-/
namespace LineCalc

namespace Word

/-- What is left over is less than the divisor and, if anything, on the side of zero where the
dividend is. -/
def Truncates (left right quotient : Int) : Prop :=
  ∃ remainder, left = quotient * right + remainder ∧ remainder.natAbs < right.natAbs ∧
    (remainder = 0 ∨ remainder.sign = left.sign)

/-- The quotient of the absolute values, below zero if just one of the two numbers is. -/
def signedQuotient (left right : Int) : Int :=
  let quotient : Int := (left.natAbs / right.natAbs : Nat)
  if left < 0 ↔ right < 0 then quotient else -quotient

def Overflows (left right : Int) : Prop := left = lowest ∧ right = -1

instance decidableOverflows (left right : Int) : Decidable (Overflows left right) :=
  inferInstanceAs (Decidable (_ ∧ _))

variable {left right quotient : Int}

theorem divide?_of_ne_zero (divides : right ≠ 0) :
    divide? left right = some (left.tdiv right) := by
  rw [divide?, if_neg divides]

theorem divide?_eq_none_iff : divide? left right = none ↔ right = 0 := by
  by_cases zero : right = 0
  · simp [divide?, zero]
  · simp [divide?_of_ne_zero zero, zero]

theorem tdiv_eq_signedQuotient (left right : Int) :
    left.tdiv right = signedQuotient left right := by
  have positive (n : Nat) : ¬ (n : Int) < 0 := Int.not_lt.mpr (Int.natCast_nonneg n)
  cases left with
  | ofNat m =>
    cases right with
    | ofNat n => simp [signedQuotient, positive]
    | negSucc n => simp [signedQuotient, Int.tdiv, positive]
  | negSucc m =>
    cases right with
    | ofNat n => simp [signedQuotient, Int.tdiv, positive]
    | negSucc n => simp [signedQuotient, Int.tdiv]

theorem truncates_tdiv (left : Int) (divides : right ≠ 0) :
    Truncates left right (left.tdiv right) := by
  refine ⟨left.tmod right, ?_, ?_, ?_⟩
  · rw [Int.mul_comm, Int.mul_tdiv_add_tmod]
  · rw [Int.natAbs_tmod]
    exact Nat.mod_lt _ (Int.natAbs_pos.mpr divides)
  · rw [Int.sign_tmod]
    by_cases exact : right ∣ left
    · exact .inl (Int.tmod_eq_zero_of_dvd exact)
    · exact .inr (if_neg exact)

theorem Truncates.eq_tdiv (truncates : Truncates left right quotient) :
    quotient = left.tdiv right := by
  obtain ⟨remainder, whole, less, side⟩ := truncates
  have divides : right ≠ 0 := by
    rintro rfl
    simp at less
  have sum : remainder + right * quotient = left := by
    rw [whole, Int.mul_comm, Int.add_comm]
  rcases Int.le_total 0 left with positive | negative
  · have above : 0 ≤ remainder := by
      rcases side with rfl | same
      · exact Int.le_refl 0
      · rwa [← Int.sign_nonneg_iff, same, Int.sign_nonneg_iff]
    exact ((Int.tdiv_tmod_unique positive divides).mpr ⟨sum, above, by omega⟩).1.symm
  · have below : remainder ≤ 0 := by
      rcases side with rfl | same
      · exact Int.le_refl 0
      · rwa [← Int.sign_nonpos_iff, same, Int.sign_nonpos_iff]
    exact ((Int.tdiv_tmod_unique' negative divides).mpr ⟨sum, by omega, below⟩).1.symm

theorem tdiv_inRange_iff (range : InRange left) (divides : right ≠ 0) :
    InRange (left.tdiv right) ↔ ¬ Overflows left right := by
  have amount : (left.tdiv right).natAbs = left.natAbs / right.natAbs := Int.natAbs_tdiv left right
  unfold InRange Overflows lowest highest at *
  by_cases unit : right.natAbs = 1
  · rcases Int.natAbs_eq_iff.mp unit with rfl | rfl
    · rw [Int.ofNat_one, Int.tdiv_one]
      omega
    · rw [Int.ofNat_one, Int.tdiv_neg, Int.tdiv_one]
      omega
  · have half : left.natAbs / right.natAbs ≤ left.natAbs / 2 :=
      Nat.div_le_div_left (by omega) (by decide)
    omega

theorem toInt_bits (range : InRange left) : (BitVec.ofInt 32 left).toInt = left := by
  rw [BitVec.toInt_ofInt]
  exact wrap_eq_self range

theorem toInt_sdiv_bits (range : InRange left) (rangeRight : InRange right) :
    ((BitVec.ofInt 32 left).sdiv (BitVec.ofInt 32 right)).toInt = wrap (left.tdiv right) := by
  rw [BitVec.toInt_sdiv, toInt_bits range, toInt_bits rangeRight]
  rfl

end Word

namespace Evaluation
open Syntax Word

def IsDivision (e : Expr) (left right : Int) : Prop :=
  ∃ first operator second, e = .binary first operator second ∧ operator.kind = .slash ∧
    first.evaluate = .ok left ∧ second.evaluate = .ok right

variable {e : Expr} {left right : Int}

theorem IsDivision.evaluate_eq (division : IsDivision e left right) :
    e.evaluate = combine .slash left right := by
  obtain ⟨first, operator, second, rfl, slash, value, other⟩ := division
  rw [evaluate_eq_result] at value other ⊢
  rw [result_binary, value, other, slash]

theorem combine_slash_zero (left : Int) : combine .slash left 0 = .error .divisionByZero := rfl

theorem combine_slash (divides : right ≠ 0) :
    combine .slash left right = .ok (wrap (left.tdiv right)) := by
  rw [combine, divide?_of_ne_zero divides]

theorem combine_slash_eq_error_iff :
    combine .slash left right = .error .divisionByZero ↔ right = 0 := by
  by_cases zero : right = 0
  · simp [zero, combine_slash_zero]
  · simp [zero, combine_slash zero]

/-- There is no quotient by zero. By any other number the quotient is the one that truncates, and of
two words a slash makes what a machine does: the quotient, if it does not overflow. -/
theorem division_overflows_in_one_case (left right : Int) :
    (divide? left right = none ↔ right = 0) ∧
    (right ≠ 0 → ∃ q, divide? left right = some q ∧ q = signedQuotient left right ∧
      ∀ p, Truncates left right p ↔ p = q) ∧
    (∀ e, IsDivision e left right → e.evaluate = combine .slash left right) ∧
    (combine .slash left right = .error .divisionByZero ↔ right = 0) ∧
    (right ≠ 0 → InRange left → InRange right → ∃ q n, divide? left right = some q ∧
      combine .slash left right = .ok n ∧
      n = ((BitVec.ofInt 32 left).sdiv (BitVec.ofInt 32 right)).toInt ∧
      (n = q ↔ ¬ Overflows left right) ∧ (Overflows left right → n = lowest)) := by
  refine ⟨divide?_eq_none_iff, fun divides => ?_, fun e division => division.evaluate_eq,
    combine_slash_eq_error_iff, fun divides range rangeRight => ?_⟩
  · refine ⟨_, divide?_of_ne_zero divides, tdiv_eq_signedQuotient left right, fun p => ?_⟩
    refine ⟨Truncates.eq_tdiv, ?_⟩
    rintro rfl
    exact truncates_tdiv left divides
  · refine ⟨_, _, divide?_of_ne_zero divides, combine_slash divides,
      (toInt_sdiv_bits range rangeRight).symm, ?_, fun overflows => ?_⟩
    · rw [← tdiv_inRange_iff range divides]
      refine ⟨fun same => ?_, wrap_eq_self⟩
      rw [← same]
      exact wrap_inRange _
    · obtain ⟨rfl, rfl⟩ := overflows
      decide

theorem division_of_the_lowest_word :
    InRange lowest ∧ InRange (-1) ∧ divide? lowest (-1) = some 2147483648 ∧
      (Expr.binary (.number ⟨.number, 0, none, some lowest⟩) ⟨.slash, 1, none, none⟩
        (.number ⟨.number, 2, none, some (-1)⟩)).evaluate = .ok lowest ∧
      divide? (-7) 2 = some (-3) ∧ Truncates (-7) 2 (-3) := by
  have range : InRange lowest ∧ InRange (-1) := by decide
  obtain ⟨_, _, asks, _, machine⟩ := division_overflows_in_one_case lowest (-1)
  obtain ⟨_, n, _, value, _, _, overflow⟩ := machine (by decide) range.1 range.2
  obtain rfl := overflow ⟨rfl, rfl⟩
  obtain ⟨_, truncated, _⟩ := division_overflows_in_one_case (-7) 2
  obtain ⟨three, found, _, only⟩ := truncated (by decide)
  have same : divide? (-7) 2 = some (-3) := by decide
  obtain rfl := Option.some.inj (found.symm.trans same)
  refine ⟨range.1, range.2, by decide, ?_, same, (only (-3)).mpr rfl⟩
  rw [← value]
  exact asks _ ⟨_, _, _, rfl, rfl, by cbv, by cbv⟩

end Evaluation
end LineCalc
