import LineCalc.Proofs.JoinedLines
import Mathlib.Data.List.Infix

/-!
How deep the parentheses of a line nest. Where so many are open among the tokens as many are open
among the characters; so a bound that the characters keep holds for the tree as well.
-/
namespace LineCalc.Syntax

def NestsWithin {α : Type} [DecidableEq α] (opening closing : α) (limit : Nat) (line : List α) :
    Prop :=
  ∀ front, front <+: line → front.count opening ≤ front.count closing + limit

instance {α : Type} [DecidableEq α] (opening closing : α) (limit : Nat) (line : List α) :
    Decidable (NestsWithin opening closing limit line) :=
  decidable_of_iff
    (∀ front ∈ line.inits, front.count opening ≤ front.count closing + limit)
    (forall_congr' fun front => by rw [List.mem_inits])

section
variable {α : Type} [DecidableEq α] {opening closing : α} {limit : Nat} {front back : List α}

theorem NestsWithin.left (within : NestsWithin opening closing limit (front ++ back)) :
    NestsWithin opening closing limit front := fun part ahead =>
  within part (ahead.trans (List.prefix_append front back))

theorem NestsWithin.right (within : NestsWithin opening closing limit (front ++ back))
    (balanced : front.count opening = front.count closing) :
    NestsWithin opening closing limit back := by
  intro part ahead
  have whole := within (front ++ part) ((List.prefix_append_right_inj front).mpr ahead)
  rw [List.count_append, List.count_append, balanced] at whole
  omega

theorem NestsWithin.inside (other : opening ≠ closing)
    (within : NestsWithin opening closing limit (opening :: front)) :
    ∃ deeper, limit = deeper + 1 ∧ NestsWithin opening closing deeper front := by
  have more (part : List α) (ahead : part <+: front) :
      part.count opening + 1 ≤ part.count closing + limit := by
    have whole := within (opening :: part) (List.cons_prefix_cons.mpr ⟨rfl, ahead⟩)
    simpa [other] using whole
  have positive := more [] List.nil_prefix
  simp only [List.count_nil] at positive
  refine ⟨limit - 1, by omega, fun part ahead => ?_⟩
  have bound := more part ahead
  omega

end

/-! Trees. -/

variable {category : Category} {nesting limit : Nat} {e : Expr}

theorem TreeOf.count_kinds (tree : TreeOf category nesting e) :
    (e.leaves.map Token.kind).count .openParenthesis =
      (e.leaves.map Token.kind).count .closeParenthesis := by
  induction tree with
  | number kind => simp [Expr.leaves, kind]
  | group opens inner closes ih => simp [Expr.leaves, opens, closes, ih]
  | lonePrimary only ih => exact ih
  | loneFactor only ih => exact ih
  | @product nesting left right operator first strength last hf hl
  | @sum nesting left right operator first strength last hf hl =>
    have noOpening : operator.kind ≠ .openParenthesis := Kind.ne_of_binds (by omega) rfl
    have noClosing : operator.kind ≠ .closeParenthesis := Kind.ne_of_binds (by omega) rfl
    simp [Expr.leaves, hf, hl, noOpening, noClosing]

theorem NestsWithin.operands {left right : Expr} {operator : Token}
    (first : TreeOf category nesting left) (strong : 0 < operator.kind.binaryPrecedence)
    (within : NestsWithin .openParenthesis .closeParenthesis limit
      ((Expr.binary left operator right).leaves.map Token.kind)) :
    NestsWithin .openParenthesis .closeParenthesis limit (left.leaves.map Token.kind) ∧
      NestsWithin .openParenthesis .closeParenthesis limit (right.leaves.map Token.kind) := by
  have noOpening : operator.kind ≠ .openParenthesis := Kind.ne_of_binds strong rfl
  have noClosing : operator.kind ≠ .closeParenthesis := Kind.ne_of_binds strong rfl
  rw [Expr.leaves, List.map_append, List.map_cons] at within
  have behind : NestsWithin .openParenthesis .closeParenthesis limit
      ([operator.kind] ++ right.leaves.map Token.kind) := within.right first.count_kinds
  exact ⟨within.left, behind.right (by simp [noOpening, noClosing])⟩

theorem TreeOf.of_nestsWithin (tree : TreeOf category nesting e)
    (within : NestsWithin .openParenthesis .closeParenthesis limit (e.leaves.map Token.kind)) :
    TreeOf category limit e := by
  induction tree generalizing limit with
  | number kind => exact .number kind
  | @group nesting opening closing inside opens inner closes ih =>
    rw [Expr.leaves, List.map_cons, opens, List.map_append] at within
    obtain ⟨deeper, rfl, behind⟩ := within.inside (by decide)
    exact .group opens (ih behind.left) closes
  | lonePrimary only ih => exact .lonePrimary (ih within)
  | loneFactor only ih => exact .loneFactor (ih within)
  | product first strength last hf hl =>
    obtain ⟨left, right⟩ := within.operands first (by omega)
    exact .product (hf left) strength (hl right)
  | sum first strength last hf hl =>
    obtain ⟨left, right⟩ := within.operands first (by omega)
    exact .sum (hf left) strength (hl right)

/-! Lines. -/

namespace Lexer

theorem isRun_of_sign {c : Char} {kind : Kind} (sign : operatorKind? c = some kind) :
    kind.isRun = false ∧ kind ≠ .bad := by
  rcases operatorKind?_eq_some sign with ⟨_, rfl⟩ | ⟨_, rfl⟩ | ⟨_, rfl⟩ | ⟨_, rfl⟩ | ⟨_, rfl⟩ |
    ⟨_, rfl⟩
  all_goals decide

end Lexer

theorem Kind.Admits.count_sign {kind other : Kind} {run : List Char} (admits : other.Admits run)
    {c : Char} (sign : Lexer.operatorKind? c = some kind) :
    run.count c = [other].count kind := by
  by_cases same : other = kind
  · subst same
    obtain ⟨noRun, good⟩ := Lexer.isRun_of_sign sign
    obtain ⟨d, rfl, operator⟩ := admits.exists_sign noRun good
    rw [Lexer.operatorKind?_inj sign operator]
    simp
  · have absent : c ∉ run := by
      intro member
      rw [← admits.charKind_eq c member, Lexer.charKind_of_operator sign] at same
      exact same rfl
    rw [List.count_eq_zero.mpr absent, List.count_singleton, if_neg (by simpa using same)]

theorem Lexer.exists_text (lexer : Lexer) {front : List Token} (ahead : front <+: lexer.words) :
    ∃ text, text <+: lexer.rest ∧
      ∀ c kind, operatorKind? c = some kind →
        text.count c = (front.map Token.kind).count kind := by
  induction lexer using scan_induction generalizing front with
  | stop position =>
    rw [words_nil, List.prefix_nil] at ahead
    exact ⟨[], List.nil_prefix, by simp [ahead]⟩
  | step lexer other run rest takes ih =>
    rw [takes.line]
    rw [takes.words_eq] at ahead
    by_cases counts : (Token.ofRun other lexer.position run).isSignificant = true
    · rw [List.filter_cons_of_pos counts] at ahead
      rcases List.prefix_cons_iff.mp ahead with rfl | ⟨others, rfl, later⟩
      · exact ⟨[], List.nil_prefix, by simp⟩
      · obtain ⟨text, within, same⟩ := ih later
        refine ⟨run ++ text, (List.prefix_append_right_inj run).mpr within, fun c kind sign => ?_⟩
        have here : (Token.ofRun other lexer.position run).kind = other := rfl
        rw [List.count_append, same c kind sign, takes.admits.count_sign sign, List.map_cons, here,
          ← List.count_append]
        rfl
    · rw [List.filter_cons_of_neg counts] at ahead
      obtain ⟨text, within, same⟩ := ih ahead
      refine ⟨run ++ text, (List.prefix_append_right_inj run).mpr within, fun c kind sign => ?_⟩
      have noSign : other ≠ kind := by
        rintro rfl
        obtain ⟨noRun, good⟩ := isRun_of_sign sign
        have noBlank : other ≠ .whiteSpace := by
          rintro rfl
          exact absurd noRun (by decide)
        exact counts (by simp [Token.isSignificant, Token.ofRun, good, noBlank])
      rw [List.count_append, same c kind sign, takes.admits.count_sign sign, List.count_singleton,
        if_neg (by simpa using noSign), Nat.zero_add]

theorem nestsWithin_grammarTokens {s : String} (within : NestsWithin '(' ')' limit s.toList) :
    NestsWithin .openParenthesis .closeParenthesis limit ((grammarTokens s).map Token.kind) := by
  intro kinds ahead
  obtain ⟨back, whole⟩ := ahead
  obtain ⟨front, others, line, rfl, _⟩ := List.map_eq_append_iff.mp whole.symm
  obtain ⟨text, part, same⟩ := (Lexer.ofText s).exists_text ⟨others, line.symm⟩
  have bound := within text part
  rwa [same '(' .openParenthesis rfl, same ')' .closeParenthesis rfl] at bound

end LineCalc.Syntax
