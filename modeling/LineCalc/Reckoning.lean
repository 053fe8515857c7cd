import LineCalc.Evaluation

/-!
Reckoning on the tokens of a line, without a tree and in machine words of 32 bits: the operator applied
last is the last one of the weakest strength outside all groups, and what stands on either side of it
is reckoned first.
-/
namespace LineCalc.Reckoning
open Syntax

def openAfter (depth : Nat) (t : Token) : Nat :=
  if t.kind = .openParenthesis then depth + 1
  else if t.kind = .closeParenthesis then depth - 1
  else depth

structure Cut where
  left : List Token
  operator : Token
  right : List Token

/-- Cuts at the last operator of a strength that stands outside all groups. -/
def cut? (strength depth : Nat) : List Token → Option Cut
  | [] => none
  | t :: r =>
    match cut? strength (openAfter depth t) r with
    | some cut => some { cut with left := t :: cut.left }
    | none =>
      if depth = 0 ∧ t.kind.binaryPrecedence = strength then some ⟨[], t, r⟩ else none

def lastApplied? (tokens : List Token) : Option Cut := (cut? 1 0 tokens).or (cut? 2 0 tokens)

theorem eq_of_cut? {strength depth : Nat} {tokens : List Token} {cut : Cut}
    (found : cut? strength depth tokens = some cut) :
    tokens = cut.left ++ cut.operator :: cut.right := by
  induction tokens generalizing depth cut with
  | nil => simp [cut?] at found
  | cons t r ih =>
    simp only [cut?] at found
    split at found
    · rename_i inner here
      obtain rfl := Option.some.inj found
      simp [← ih here]
    · split at found
      · obtain rfl := Option.some.inj found
        rfl
      · simp at found

theorem eq_of_lastApplied? {tokens : List Token} {cut : Cut}
    (found : lastApplied? tokens = some cut) : tokens = cut.left ++ cut.operator :: cut.right := by
  rcases Option.or_eq_some_iff.mp found with weak | ⟨_, strong⟩
  · exact eq_of_cut? weak
  · exact eq_of_cut? strong

def apply (operator : Kind) (left right : Int32) : Except Fault Int32 :=
  match operator with
  | .plus => .ok (left + right)
  | .minus => .ok (left - right)
  | .star => .ok (left * right)
  | .slash => if right = 0 then .error .divisionByZero else .ok (left / right)
  | kind => .error (.unknownOperator kind)

def numberWord (t : Token) : Except Fault Int32 :=
  match t.value with
  | some n => .ok (Int32.ofInt n)
  | none => .error (.valuelessNumber t)

def reckon (tokens : List Token) : Except Fault Int32 :=
  match _found : lastApplied? tokens with
  | some cut => do
    let left ← reckon cut.left
    let right ← reckon cut.right
    apply cut.operator.kind left right
  | none =>
    match tokens with
    | [] => .error .missingOperand
    | t :: r => if t.kind = .openParenthesis then reckon r.dropLast else numberWord t
termination_by tokens.length
decreasing_by
  · have whole := congrArg List.length (eq_of_lastApplied? _found)
    simp only [List.length_append, List.length_cons] at whole
    omega
  · have whole := congrArg List.length (eq_of_lastApplied? _found)
    simp only [List.length_append, List.length_cons] at whole
    omega
  · simp only [List.length_dropLast, List.length_cons]
    omega

end LineCalc.Reckoning
