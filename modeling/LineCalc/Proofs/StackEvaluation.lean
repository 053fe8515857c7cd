import LineCalc.Evaluation

/-!
Evaluation with stacks is evaluation by recursion: a visit does what its expression alone does and
leaves the value on top of those found before.
-/
namespace LineCalc.Evaluation
open Syntax

theorem result_binary (left right : Expr) (operator : Token) :
    result (.binary left operator right) =
      match result left with
      | .error fault => .error fault
      | .ok l =>
        match result right with
        | .error fault => .error fault
        | .ok r => combine operator.kind l r := by
  rw [result]
  cases result left with
  | error fault => rfl
  | ok l =>
    cases result right with
    | error fault => rfl
    | ok r => rfl

theorem run_visit (e : Expr) (tasks : List Task) (values : List Int) :
    run (.visit e :: tasks) values =
      match result e with
      | .error fault => .error fault
      | .ok value => run tasks (value :: values) := by
  induction e generalizing tasks values with
  | number t =>
    rw [run, result]
    cases numberValue t with
    | error fault => rfl
    | ok value => rfl
  | group o e c ih =>
    rw [run, ih]
    rfl
  | binary l op r hl hr =>
    rw [run, hl, result_binary]
    cases result l with
    | error fault => rfl
    | ok left =>
      simp only [hr]
      cases result r with
      | error fault => rfl
      | ok right =>
        simp only [run]
        cases combine op.kind left right with
        | error fault => rfl
        | ok value => rfl
  | unary op e ih => rw [run, result]

theorem evaluate_eq_result (e : Expr) : e.evaluate = result e := by
  rw [Expr.evaluate, run_visit]
  cases result e with
  | error fault => rfl
  | ok value => simp only [run]

theorem combine_operator {operator : Kind} (strong : 0 < operator.binaryPrecedence)
    (left right : Int) : combine operator left right = .error .divisionByZero ∨
      ∃ value, combine operator left right = .ok value ∧ Word.InRange value := by
  cases operator with
  | plus | minus | star => exact .inr ⟨_, rfl, Word.wrap_inRange _⟩
  | slash =>
    by_cases zero : right = 0
    · simp [combine, Word.divide?, zero]
    · refine .inr ⟨Word.wrap (left.tdiv right), ?_, Word.wrap_inRange _⟩
      simp [combine, Word.divide?, zero]
  | _ => simp [Kind.binaryPrecedence] at strong

theorem combine_inRange {operator : Kind} {left right n : Int}
    (value : combine operator left right = .ok n) : Word.InRange n := by
  by_cases strong : 0 < operator.binaryPrecedence
  · rcases combine_operator strong left right with fault | ⟨m, combined, range⟩
    · simp [fault] at value
    · obtain rfl := Except.ok.inj (combined.symm.trans value)
      exact range
  · cases operator <;> simp [combine, Kind.binaryPrecedence] at value strong

theorem result_binary_inRange {left right : Expr} {operator : Token} {n : Int}
    (value : result (.binary left operator right) = .ok n) : Word.InRange n := by
  rw [result_binary] at value
  cases first : result left with
  | error fault => simp [first] at value
  | ok l =>
    cases second : result right with
    | error fault => simp [first, second] at value
    | ok r =>
      rw [first, second] at value
      exact combine_inRange value

end LineCalc.Evaluation
