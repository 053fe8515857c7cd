import LineCalc.Proofs.GrammarTrees
import LineCalc.Proofs.StackEvaluation

/-!
The loop of evaluation, round by round. What a node evaluates to is said by rules, without stacks; the
loop comes to the same end on every tree, meets the same fault first, never lacks an operand and
leaves one value.
-/
namespace LineCalc.Evaluation
open Syntax

inductive Applies : Kind → Int → Int → Except Fault Int → Prop
  | plus (left right : Int) : Applies .plus left right (.ok (Word.wrap (left + right)))
  | minus (left right : Int) : Applies .minus left right (.ok (Word.wrap (left - right)))
  | star (left right : Int) : Applies .star left right (.ok (Word.wrap (left * right)))
  | slash (left : Int) {right : Int} (divides : right ≠ 0) :
      Applies .slash left right (.ok (Word.wrap (left.tdiv right)))
  | zeroDivisor (left : Int) : Applies .slash left 0 (.error .divisionByZero)
  | unknown {operator : Kind} (idle : operator.binaryPrecedence = 0) (left right : Int) :
      Applies operator left right (.error (.unknownOperator operator))

/-- What a node evaluates to: the first operand before the second, both before the operator, and the
parentheses of a group are not asked for. -/
inductive Evaluates : Node → Except Fault Int → Prop
  | number {t : Token} {n : Int} (value : t.value = some n) :
      Evaluates (.expr (.number t)) (.ok n)
  | valueless {t : Token} (absent : t.value = none) :
      Evaluates (.expr (.number t)) (.error (.valuelessNumber t))
  | group {e : Expr} {ending : Except Fault Int} (opening closing : Token)
      (inner : Evaluates (.expr e) ending) : Evaluates (.expr (.group opening e closing)) ending
  | firstFault {l : Expr} {fault : Fault} (operator : Token) (r : Expr)
      (first : Evaluates (.expr l) (.error fault)) :
      Evaluates (.expr (.binary l operator r)) (.error fault)
  | secondFault {l r : Expr} {left : Int} {fault : Fault} (operator : Token)
      (first : Evaluates (.expr l) (.ok left)) (second : Evaluates (.expr r) (.error fault)) :
      Evaluates (.expr (.binary l operator r)) (.error fault)
  | binary {l r : Expr} {operator : Token} {left right : Int} {ending : Except Fault Int}
      (first : Evaluates (.expr l) (.ok left)) (second : Evaluates (.expr r) (.ok right))
      (applies : Applies operator.kind left right ending) :
      Evaluates (.expr (.binary l operator r)) ending
  | unary (operator : Token) (e : Expr) :
      Evaluates (.expr (.unary operator e)) (.error (.unknownNode .unaryExpression))
  | token (t : Token) : Evaluates (.token t) (.error (.unknownNode t.kind))

/-- What is raised for a fault: nothing but itself for a division by zero, else that a node cannot be
reached, with its kind. -/
inductive Raises : Fault → Option Failure → Prop
  | divisionByZero : Raises .divisionByZero none
  | valuelessNumber (t : Token) : Raises (.valuelessNumber t)
      (some ⟨.unreachableNode,
        "Number token " ++ (t.text.map Text.quoted).getD "None" ++ " has no value", some t.kind⟩)
  | unknownOperator (kind : Kind) : Raises (.unknownOperator kind)
      (some ⟨.unreachableNode, "Unexpected binary operator found", some kind⟩)
  | unknownNode (kind : Kind) : Raises (.unknownNode kind)
      (some ⟨.unreachableNode, "Unexpected node found", some kind⟩)

/-! The rules. -/

theorem combine_applies (operator : Kind) (left right : Int) :
    Applies operator left right (combine operator left right) := by
  cases operator with
  | plus => exact .plus left right
  | minus => exact .minus left right
  | star => exact .star left right
  | slash =>
    by_cases zero : right = 0
    · subst zero
      exact .zeroDivisor left
    · have quotient : combine .slash left right = .ok (Word.wrap (left.tdiv right)) := by
        simp [combine, Word.divide?, zero]
      rw [quotient]
      exact .slash left zero
  | _ => exact .unknown rfl left right

theorem Applies.combine_eq {operator : Kind} {left right : Int} {ending : Except Fault Int}
    (applies : Applies operator left right ending) : combine operator left right = ending := by
  cases applies with
  | plus | minus | star | zeroDivisor => rfl
  | slash left divides => simp [combine, Word.divide?, divides]
  | unknown idle left right =>
    cases operator with
    | plus | minus | star | slash => simp [Kind.binaryPrecedence] at idle
    | _ => rfl

theorem result_evaluates (e : Expr) : Evaluates (.expr e) (result e) := by
  induction e with
  | number t =>
    rw [result, numberValue]
    cases value : t.value with
    | some n => exact .number value
    | none => exact .valueless value
  | group o e c ih => exact .group o c ih
  | binary l op r hl hr =>
    rw [result_binary]
    cases first : result l with
    | error fault => exact .firstFault op r (first ▸ hl)
    | ok left =>
      cases second : result r with
      | error fault => exact .secondFault op (first ▸ hl) (second ▸ hr)
      | ok right => exact .binary (first ▸ hl) (second ▸ hr) (combine_applies op.kind left right)
  | unary op e ih => exact .unary op e

theorem evaluate_evaluates (node : Node) : Evaluates node node.evaluate := by
  cases node with
  | token t => exact .token t
  | expr e =>
    have same : (Node.expr e).evaluate = result e := evaluate_eq_result e
    rw [same]
    exact result_evaluates e

theorem Evaluates.evaluate_eq {node : Node} {ending : Except Fault Int}
    (evaluates : Evaluates node ending) : node.evaluate = ending := by
  have same (e : Expr) : (Node.expr e).evaluate = result e := evaluate_eq_result e
  induction evaluates with
  | number value => rw [same, result, numberValue, value]
  | valueless absent => rw [same, result, numberValue, absent]
  | group o c inner ih =>
    rw [same] at ih ⊢
    exact ih
  | firstFault op r first ih =>
    rw [same] at ih ⊢
    rw [result_binary, ih]
  | secondFault op first second hl hr =>
    rw [same] at hl hr ⊢
    rw [result_binary, hl, hr]
  | binary first second applies hl hr =>
    rw [same] at hl hr ⊢
    rw [result_binary, hl, hr]
    exact applies.combine_eq
  | unary op e => rw [same, result]
  | token t => rfl

theorem Applies.raises {operator : Kind} {left right : Int} {ending : Except Fault Int}
    (applies : Applies operator left right ending) {fault : Fault} (ends : ending = .error fault) :
    Raises fault fault.failure? := by
  cases applies with
  | zeroDivisor =>
    obtain rfl := Except.error.inj ends
    exact .divisionByZero
  | unknown =>
    obtain rfl := Except.error.inj ends
    exact .unknownOperator operator
  | _ => cases ends

theorem Evaluates.raises {node : Node} {ending : Except Fault Int}
    (evaluates : Evaluates node ending) {fault : Fault} (ends : ending = .error fault) :
    Raises fault fault.failure? := by
  induction evaluates with
  | number => cases ends
  | valueless =>
    obtain rfl := Except.error.inj ends
    exact .valuelessNumber _
  | group o c inner ih => exact ih ends
  | firstFault op r first ih => exact ih ends
  | secondFault op first second hl hr => exact hr ends
  | binary first second applies hl hr => exact applies.raises ends
  | unary | token =>
    obtain rfl := Except.error.inj ends
    exact .unknownNode _

theorem result_inRange {e : Expr}
    (range : ∀ t ∈ e.numbers, ∀ n, t.value = some n → Word.InRange n) {n : Int}
    (value : result e = .ok n) : Word.InRange n := by
  induction e with
  | number t =>
    rw [result, numberValue] at value
    cases held : t.value with
    | none => simp [held] at value
    | some m =>
      obtain rfl : m = n := by simpa [held] using value
      exact range t (List.mem_singleton_self t) m held
  | group o e c ih => exact ih range value
  | binary l op r hl hr => exact result_binary_inRange value
  | unary op e ih => cases value

/-! The loop. -/

structure Stacks where
  tasks : List Task
  values : List Int

def round (task : Task) (state : Stacks) : Except Fault Stacks :=
  match task, state with
  | .visit (.number t), ⟨tasks, values⟩ => (numberValue t).map fun n => ⟨tasks, n :: values⟩
  | .visit (.group _ e _), ⟨tasks, values⟩ => .ok ⟨.visit e :: tasks, values⟩
  | .visit (.binary l op r), ⟨tasks, values⟩ =>
    .ok ⟨.visit l :: .visit r :: .apply op.kind :: tasks, values⟩
  | .visit (.unary ..), _ => .error (.unknownNode .unaryExpression)
  | .apply op, ⟨tasks, right :: left :: values⟩ =>
    (combine op left right).map fun n => ⟨tasks, n :: values⟩
  | .apply _, _ => .error .missingOperand

inductive Reached (e : Expr) : Stacks → Prop
  | start : Reached e ⟨[.visit e], []⟩
  | next {task : Task} {tasks : List Task} {values : List Int} {after : Stacks}
      (before : Reached e ⟨task :: tasks, values⟩) (done : round task ⟨tasks, values⟩ = .ok after) :
      Reached e after

structure Loops (e : Expr) : Prop where
  /-- The rounds are those of the evaluation. -/
  faithful : ∀ state, Reached e state → run state.tasks state.values = e.evaluate
  supplied : ∀ operator tasks values, Reached e ⟨.apply operator :: tasks, values⟩ →
    ∃ right left below, values = right :: left :: below
  single : ∀ values, Reached e ⟨[], values⟩ → ∃ n, values = [n] ∧ e.evaluate = .ok n
  ends : (∃ n, e.evaluate = .ok n ∧ Reached e ⟨[], [n]⟩) ∨
    ∃ fault task tasks values, e.evaluate = .error fault ∧
      Reached e ⟨task :: tasks, values⟩ ∧ round task ⟨tasks, values⟩ = .error fault

variable {e : Expr} {task : Task} {tasks : List Task} {values : List Int} {after : Stacks}

theorem run_cons (task : Task) (tasks : List Task) (values : List Int) :
    run (task :: tasks) values =
      (round task ⟨tasks, values⟩).bind fun after => run after.tasks after.values := by
  cases task with
  | visit e =>
    cases e with
    | number t =>
      rw [run, round]
      cases numberValue t <;> rfl
    | group o e c | binary l op r | unary op e => rw [run]; rfl
  | apply op =>
    rcases values with _ | ⟨right, _ | ⟨left, values⟩⟩
    · rw [run] <;> simp [round, Except.bind]
    · rw [run] <;> simp [round, Except.bind]
    · rw [run, round]
      cases combine op left right <;> rfl

inductive Moves : Task → Stacks → Stacks → Prop
  | number (t : Token) (n : Int) (tasks : List Task) (values : List Int) :
      Moves (.visit (.number t)) ⟨tasks, values⟩ ⟨tasks, n :: values⟩
  | group (opening : Token) (e : Expr) (closing : Token) (tasks : List Task) (values : List Int) :
      Moves (.visit (.group opening e closing)) ⟨tasks, values⟩ ⟨.visit e :: tasks, values⟩
  | binary (l : Expr) (operator : Token) (r : Expr) (tasks : List Task) (values : List Int) :
      Moves (.visit (.binary l operator r)) ⟨tasks, values⟩
        ⟨.visit l :: .visit r :: .apply operator.kind :: tasks, values⟩
  | apply (operator : Kind) (left right n : Int) (tasks : List Task) (below : List Int) :
      Moves (.apply operator) ⟨tasks, right :: left :: below⟩ ⟨tasks, n :: below⟩

theorem moves_of_round (done : round task ⟨tasks, values⟩ = .ok after) :
    Moves task ⟨tasks, values⟩ after := by
  cases task with
  | visit e =>
    cases e with
    | number t =>
      rw [round] at done
      cases found : numberValue t with
      | error fault => simp [found, Except.map] at done
      | ok n =>
        rw [found] at done
        obtain rfl := Except.ok.inj done
        exact .number t n tasks values
    | group o e c =>
      obtain rfl := Except.ok.inj done
      exact .group o e c tasks values
    | binary l op r =>
      obtain rfl := Except.ok.inj done
      exact .binary l op r tasks values
    | unary op e => cases done
  | apply op =>
    match values with
    | [] | [_] => cases done
    | right :: left :: below =>
      rw [round] at done
      cases made : combine op left right with
      | error fault => simp [made, Except.map] at done
      | ok n =>
        rw [made] at done
        obtain rfl := Except.ok.inj done
        exact .apply op left right n tasks below

/-- How many values there are when the tasks are done, if none of them lacks an operand. -/
def heightAfter : List Task → (height : Nat) → Option Nat
  | [], height => some height
  | .visit _ :: tasks, height => heightAfter tasks (height + 1)
  | .apply _ :: tasks, height + 2 => heightAfter tasks (height + 1)
  | .apply _ :: _, _ => none

theorem heightAfter_round (done : round task ⟨tasks, values⟩ = .ok after) :
    heightAfter after.tasks after.values.length = heightAfter (task :: tasks) values.length := by
  cases moves_of_round done <;> rfl

theorem weight_round (done : round task ⟨tasks, values⟩ = .ok after) :
    weight after.tasks < weight (task :: tasks) := by
  cases moves_of_round done <;> simp only [weight, Task.weight, Expr.size] <;> omega

theorem Reached.heightAfter_eq {state : Stacks} (reached : Reached e state) :
    heightAfter state.tasks state.values.length = some 1 := by
  induction reached with
  | start => rfl
  | next before done ih => exact (heightAfter_round done).trans ih

theorem Reached.run_eq {state : Stacks} (reached : Reached e state) :
    run state.tasks state.values = e.evaluate := by
  induction reached with
  | start => rfl
  | next before done ih => rw [← ih, run_cons, done, Except.bind]

theorem Reached.supplied {operator : Kind} (reached : Reached e ⟨.apply operator :: tasks, values⟩) :
    ∃ right left below, values = right :: left :: below := by
  have height := reached.heightAfter_eq
  match values with
  | [] | [_] => simp [heightAfter] at height
  | right :: left :: below => exact ⟨right, left, below, rfl⟩

theorem Reached.single (reached : Reached e ⟨[], values⟩) :
    ∃ n, values = [n] ∧ e.evaluate = .ok n := by
  have one : values.length = 1 := Option.some.inj reached.heightAfter_eq
  obtain ⟨n, rfl⟩ := List.length_eq_one_iff.mp one
  have same := reached.run_eq
  rw [run] at same
  exact ⟨n, rfl, same.symm⟩

theorem Reached.ends {state : Stacks} (reached : Reached e state) :
    (∃ n, e.evaluate = .ok n ∧ Reached e ⟨[], [n]⟩) ∨
      ∃ fault task tasks values, e.evaluate = .error fault ∧
        Reached e ⟨task :: tasks, values⟩ ∧ round task ⟨tasks, values⟩ = .error fault := by
  -- Each round leaves tasks of less weight.
  induction size : weight state.tasks using Nat.strongRecOn generalizing state with
  | ind k ih =>
    obtain ⟨tasks, values⟩ := state
    cases tasks with
    | nil =>
      obtain ⟨n, rfl, value⟩ := reached.single
      exact .inl ⟨n, value, reached⟩
    | cons task tasks =>
      cases done : round task ⟨tasks, values⟩ with
      | ok after => exact ih (weight after.tasks) (size ▸ weight_round done) (reached.next done) rfl
      | error fault =>
        have same := reached.run_eq
        rw [run_cons, done] at same
        exact .inr ⟨fault, task, tasks, values, same.symm, reached, done⟩

theorem loops (e : Expr) : Loops e where
  faithful _ reached := reached.run_eq
  supplied _ _ _ reached := reached.supplied
  single _ reached := reached.single
  ends := Reached.start.ends

/-- On every node the loop ends as the rules say, with the same fault if there are several, and what
is raised then says what the node is. It never lacks an operand, ends with one value, and gives a
word if the numbers of the tree are words. -/
theorem loop_follows_the_rules (node : Node) :
    (∀ ending, Evaluates node ending ↔ node.evaluate = ending) ∧
    (∀ fault, node.evaluate = .error fault → Raises fault fault.failure?) ∧
    ∀ e, node = .expr e → Loops e ∧
      ((∀ t ∈ e.numbers, ∀ n, t.value = some n → Word.InRange n) →
        ∀ n, node.evaluate = .ok n → Word.InRange n) := by
  refine ⟨fun ending => ⟨Evaluates.evaluate_eq, ?_⟩, ?_, ?_⟩
  · rintro rfl
    exact evaluate_evaluates node
  · intro fault ends
    exact (evaluate_evaluates node).raises ends
  · rintro e rfl
    refine ⟨loops e, fun range n value => result_inRange range ?_⟩
    exact (evaluate_eq_result e).symm.trans value

end LineCalc.Evaluation
