import LineCalc.Proofs.DeepGroups

/-!
Expressions with one operand left out. What is put there may be any primary: the rest stays a tree
of the grammar, and its result asks for no more than the result of the operand. A group whose tokens
stand one after the other in a tree is such an operand of it, as parentheses match in one way only.
-/
namespace LineCalc.Syntax

/-- An expression of the grammar with one operand left out. -/
inductive Context where
  | here
  | inGroup (opening : Token) (inside : Context) (closing : Token)
  | onLeft (left : Context) (operator : Token) (right : Expr)
  | onRight (left : Expr) (operator : Token) (right : Context)

namespace Context

def plug : Context → Expr → Expr
  | here, e => e
  | inGroup o inside c, e => .group o (inside.plug e) c
  | onLeft left op r, e => .binary (left.plug e) op r
  | onRight l op right, e => .binary l op (right.plug e)

def before : Context → List Token
  | here => []
  | inGroup o inside _ => o :: inside.before
  | onLeft left _ _ => left.before
  | onRight l op right => l.leaves ++ op :: right.before

def after : Context → List Token
  | here => []
  | inGroup _ inside c => inside.after ++ [c]
  | onLeft left op r => left.after ++ op :: r.leaves
  | onRight _ _ right => right.after

theorem leaves_plug (context : Context) (e : Expr) :
    (context.plug e).leaves = context.before ++ (e.leaves ++ context.after) := by
  induction context with
  | here => simp [plug, before, after]
  | inGroup o inside c ih => simp [plug, before, after, Expr.leaves, ih]
  | onLeft left op r ih => simp [plug, before, after, Expr.leaves, ih]
  | onRight l op right ih => simp [plug, before, after, Expr.leaves, ih]

theorem result_plug (context : Context) {e other : Expr}
    (same : Evaluation.result e = Evaluation.result other) :
    Evaluation.result (context.plug e) = Evaluation.result (context.plug other) := by
  induction context with
  | here => exact same
  | inGroup o inside c ih => exact ih
  | onLeft left op r ih => rw [plug, plug, Evaluation.result_binary, Evaluation.result_binary, ih]
  | onRight l op right ih => rw [plug, plug, Evaluation.result_binary, Evaluation.result_binary, ih]

end Context

variable {category : Category} {nesting : Nat} {e : Expr}

theorem TreeOf.plug {context : Context} {operand other : Expr} {deep : Nat}
    (tree : TreeOf category nesting e) (whole : e = context.plug operand)
    (primary : TreeOf .primary deep other) :
    TreeOf category (nesting + deep) (context.plug other) := by
  have alone (low : Nat) : TreeOf .primary (low + deep) other := primary.mono (Nat.le_add_left _ _)
  induction tree generalizing context with
  | number kind =>
    cases context with
    | here => exact alone _
    | _ => simp [Context.plug] at whole
  | @group nesting opening closing inside opens inner closes ih =>
    cases context with
    | here => exact alone _
    | inGroup o within c =>
      obtain ⟨rfl, rfl, rfl⟩ := Expr.group.inj whole
      rw [Nat.succ_add]
      exact .group opens (ih rfl) closes
    | _ => simp [Context.plug] at whole
  | lonePrimary only ih => exact .lonePrimary (ih whole)
  | loneFactor only ih => exact .loneFactor (ih whole)
  | product first strength last hf hl =>
    cases context with
    | here => exact .lonePrimary (alone _)
    | onLeft left op r =>
      obtain ⟨rfl, rfl, rfl⟩ := Expr.binary.inj whole
      exact .product (hf rfl) strength (last.mono (Nat.le_add_right _ _))
    | onRight l op right =>
      obtain ⟨rfl, rfl, rfl⟩ := Expr.binary.inj whole
      exact .product (first.mono (Nat.le_add_right _ _)) strength (hl rfl)
    | inGroup o within c => simp [Context.plug] at whole
  | sum first strength last hf hl =>
    cases context with
    | here => exact (alone _).of_primary
    | onLeft left op r =>
      obtain ⟨rfl, rfl, rfl⟩ := Expr.binary.inj whole
      exact .sum (hf rfl) strength (last.mono (Nat.le_add_right _ _))
    | onRight l op right =>
      obtain ⟨rfl, rfl, rfl⟩ := Expr.binary.inj whole
      exact .sum (first.mono (Nat.le_add_right _ _)) strength (hl rfl)
    | inGroup o within c => simp [Context.plug] at whole

/-! Matching parentheses. -/

open Reckoning (openAfter openAfterAll openAfterAll_cons openAfterAll_append openAfter_operator
  openAfterAll_leaves)

variable {front : List Token}

theorem le_openAfterAll (tree : TreeOf category nesting e) (ahead : front <+: e.leaves)
    (depth : Nat) : depth ≤ openAfterAll depth front := by
  induction tree generalizing front depth with
  | @number nesting t kind =>
    rcases List.prefix_concat_iff.mp (show front <+: [] ++ [t] from ahead) with rfl | none
    · simp [openAfterAll, openAfter, kind]
    · simp [List.prefix_nil.mp none, openAfterAll]
  | @group nesting opening closing inside opens inner closes ih =>
    rcases List.prefix_cons_iff.mp ahead with rfl | ⟨others, rfl, within⟩
    · exact Nat.le_refl _
    · have opened : openAfter depth opening = depth + 1 := by simp [openAfter, opens]
      rw [openAfterAll_cons, opened]
      rcases List.prefix_concat_iff.mp within with rfl | part
      · rw [openAfterAll_append, openAfterAll_leaves inner]
        simp [openAfterAll, openAfter, closes]
      · exact Nat.le_of_succ_le (ih part (depth + 1))
  | lonePrimary only ih => exact ih ahead depth
  | loneFactor only ih => exact ih ahead depth
  | @product nesting left right operator first strength last hf hl
  | @sum nesting left right operator first strength last hf hl =>
    rcases List.prefix_or_prefix_of_prefix ahead (List.prefix_append left.leaves _) with
      inside | ⟨more, rfl⟩
    · exact hf inside depth
    · rw [openAfterAll_append, openAfterAll_leaves first]
      rcases List.prefix_cons_iff.mp ((List.prefix_append_right_inj left.leaves).mp ahead) with
        rfl | ⟨others, rfl, within⟩
      · exact Nat.le_refl _
      · rw [openAfterAll_cons, openAfter_operator (by omega)]
        exact hl within depth

variable {opening closing final : Token} {inside within left : Expr} {deep : Nat}
  {back : List Token}

theorem group_of_leaves_ahead (tree : TreeOf .term nesting within)
    (inner : TreeOf .term deep inside) (closes : closing.kind = .closeParenthesis)
    (ends : final.kind = .closeParenthesis)
    (line : within.leaves ++ [final] = inside.leaves ++ closing :: back) :
    within = inside ∧ final = closing ∧ back = [] := by
  have behind : afterGroups 1 (within.leaves ++ [final]) = [] := by
    rw [afterGroups_leaves tree, afterGroups, if_neg (by simp [ends]), if_pos ends, afterGroups]
  have rest : afterGroups 1 (inside.leaves ++ closing :: back) = back := by
    rw [afterGroups_leaves inner, afterGroups, if_neg (by simp [closes]), if_pos closes,
      afterGroups]
  obtain rfl : back = [] := by rw [← rest, ← line, behind]
  obtain ⟨leaves, same⟩ := List.append_inj' line rfl
  exact ⟨tree.eq_of_leaves inner leaves, List.singleton_inj.mp same, rfl⟩

theorem openAfterAll_opening (opens : opening.kind = .openParenthesis) (depth : Nat) :
    openAfterAll depth (opening :: back) = openAfterAll (depth + 1) back := by
  simp [openAfterAll_cons, openAfter, opens]

theorem inner_group_of_leaves (tree : TreeOf .term nesting within)
    (opens : opening.kind = .openParenthesis) (inner : TreeOf .term deep inside)
    (line : within.leaves ++ [final] = front ++ opening :: (inside.leaves ++ closing :: back)) :
    ∃ others, back = others ++ [final] ∧
      within.leaves = front ++ opening :: (inside.leaves ++ closing :: others) := by
  rcases List.eq_nil_or_concat back with rfl | ⟨others, t, rfl⟩
  · -- The whole group within would be open still.
    have whole : within.leaves ++ [final] =
        (front ++ opening :: inside.leaves) ++ [closing] := by simpa using line
    have balanced := openAfterAll_leaves tree 0
    rw [(List.append_inj' whole rfl).1, openAfterAll_append, openAfterAll_opening opens,
      openAfterAll_leaves inner] at balanced
    omega
  · have whole : within.leaves ++ [final] =
        (front ++ opening :: (inside.leaves ++ closing :: others)) ++ [t] := by simpa using line
    obtain ⟨leaves, same⟩ := List.append_inj' whole rfl
    exact ⟨others, by rw [List.singleton_inj.mp same, List.concat_eq_append], leaves⟩

theorem left_group_of_leaves {operator : Token} {rest more : List Token}
    (tree : TreeOf category nesting left) (opens : opening.kind = .openParenthesis)
    (inner : TreeOf .term deep inside) (closes : closing.kind = .closeParenthesis)
    (strong : 0 < operator.kind.binaryPrecedence) (leaves : left.leaves = front ++ opening :: more)
    (line : inside.leaves ++ closing :: back = more ++ operator :: rest) :
    ∃ others, back = others ++ operator :: rest ∧
      left.leaves = front ++ opening :: (inside.leaves ++ closing :: others) := by
  rcases List.append_eq_append_iff.mp line with ⟨tail, rfl, behind⟩ | ⟨tail, whole, behind⟩
  · cases tail with
    | nil =>
      have same : closing = operator := (List.cons.inj behind).1
      exact absurd (same ▸ closes) (Kind.ne_of_binds strong rfl)
    | cons t others =>
      obtain ⟨rfl, rfl⟩ := List.cons.inj behind
      exact ⟨others, rfl, leaves⟩
  · -- Up to the operator the group would be open still.
    have balanced := openAfterAll_leaves tree 0
    rw [leaves, openAfterAll_append, openAfterAll_opening opens] at balanced
    have still := le_openAfterAll inner ⟨tail, whole.symm⟩ (openAfterAll 0 front + 1)
    omega

/-- Where the tokens of a group stand among those of a tree, the group is an operand of it. -/
theorem exists_context (tree : TreeOf category nesting e) (opens : opening.kind = .openParenthesis)
    (inner : TreeOf .term deep inside) (closes : closing.kind = .closeParenthesis)
    (line : e.leaves = front ++ opening :: (inside.leaves ++ closing :: back)) :
    ∃ context : Context, e = context.plug (.group opening inside closing) ∧
      context.before = front ∧ context.after = back := by
  induction tree generalizing front back with
  | number kind =>
    have length := congrArg List.length line
    simp [Expr.leaves] at length
    omega
  | @group nesting first last within firstOpens within_tree lastCloses ih =>
    cases front with
    | nil =>
      obtain ⟨rfl, behind⟩ := List.cons.inj line
      obtain ⟨rfl, rfl, rfl⟩ := group_of_leaves_ahead within_tree inner closes lastCloses behind
      exact ⟨.here, rfl, rfl, rfl⟩
    | cons t others =>
      obtain ⟨rfl, behind⟩ := List.cons.inj line
      obtain ⟨rest, rfl, leaves⟩ := inner_group_of_leaves within_tree opens inner behind
      obtain ⟨context, rfl, rfl, rfl⟩ := ih leaves
      exact ⟨.inGroup first context last, rfl, rfl, rfl⟩
  | lonePrimary only ih => exact ih line
  | loneFactor only ih => exact ih line
  | @product nesting left right operator first strength last hf hl
  | @sum nesting left right operator first strength last hf hl =>
    have strong : 0 < operator.kind.binaryPrecedence := by omega
    have noOpening : operator ≠ opening := fun same =>
      Kind.ne_of_binds strong rfl (same ▸ opens)
    rcases List.append_eq_append_iff.mp line with ⟨more, rfl, behind⟩ | ⟨more, leaves, behind⟩
    · cases more with
      | nil => exact absurd (List.cons.inj behind).1 noOpening
      | cons t others =>
        obtain ⟨rfl, rightLeaves⟩ := List.cons.inj behind
        obtain ⟨context, rfl, rfl, rfl⟩ := hl rightLeaves
        exact ⟨.onRight left operator context, rfl, rfl, rfl⟩
    · cases more with
      | nil => exact absurd (List.cons.inj behind).1.symm noOpening
      | cons t others =>
        obtain ⟨rfl, segment⟩ := List.cons.inj behind
        obtain ⟨rest, rfl, leftLeaves⟩ :=
          left_group_of_leaves first opens inner closes strong leaves segment
        obtain ⟨context, rfl, rfl, rfl⟩ := hf leftLeaves
        exact ⟨.onLeft context operator right, rfl, rfl, rfl⟩

end LineCalc.Syntax
