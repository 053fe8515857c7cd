import Mathlib
import LineCalc.Proofs.DrawnPaths
import LineCalc.Proofs.MovedTokens

/-!
What can be read off a drawing: how deep each node lies, its kind and its value, and nothing else.
Two trees that are drawn alike differ only in the places and the texts of their tokens, and these do
not matter to evaluation.
-/
namespace LineCalc

namespace Syntax

def features (entry : Nat × Node) : Nat × Kind × Option Int :=
  (entry.1, entry.2.kind, entry.2.value)

def Node.skeleton (node : Node) : List (Nat × Kind × Option Int) := node.preorder.map features

def Token.bare (t : Token) : Token := { t with position := 0, text := none }

def Node.mapTokens (f : Token → Token) : Node → Node
  | .token t => .token (f t)
  | .expr e => .expr (e.mapTokens f)

end Syntax

namespace Drawing
open Syntax

def text (node : Node) : String := "\n".intercalate (ofNode node)

/-! Lines. -/

theorem name_isAlphanum {kind : Kind} {c : Char} (member : c ∈ kind.name.toList) :
    c.isAlphanum = true := by
  have every : kind.name.toList.all Char.isAlphanum = true := by cases kind <;> decide +kernel
  exact List.all_eq_true.mp every c member

theorem blank_not_mem_name (kind : Kind) : ' ' ∉ kind.name.toList := fun member => by
  simpa using name_isAlphanum member

theorem isDigit_or_minus {n : Int} {c : Char} (member : c ∈ (toString n).toList) :
    c.isDigit = true ∨ c = '-' := by
  have digit {m : Nat} (inside : c ∈ m.repr.toList) : c.isDigit = true := by
    rw [Nat.repr_eq_ofList_toDigits, String.toList_ofList] at inside
    exact Nat.isDigit_of_mem_toDigits (by decide) (by decide) inside
  rw [Int.toString_eq_repr, Int.repr_eq_if] at member
  split at member
  · exact .inl (digit member)
  · rw [String.toList_append, List.mem_append] at member
    rcases member with sign | inside
    · exact .inr (by simpa using sign)
    · exact .inl (digit inside)

theorem blank_mem_label_iff (node : Node) :
    ' ' ∈ (label node).toList ↔ node.value.isSome = true := by
  unfold label
  cases node.value with
  | none => simp [blank_not_mem_name]
  | some n => simp

theorem label_char {node : Node} {c : Char} (member : c ∈ (label node).toList) :
    c.isAlphanum = true ∨ c = ' ' ∨ c = '-' := by
  unfold label at member
  cases value : node.value with
  | none =>
    rw [value] at member
    exact .inl (name_isAlphanum member)
  | some n =>
    rw [value] at member
    simp only [String.toList_append, List.mem_append] at member
    rcases member with (name | blank) | digits
    · exact .inl (name_isAlphanum name)
    · exact .inr (.inl (by simpa using blank))
    · rcases isDigit_or_minus digits with digit | minus
      · exact .inl (by simp [Char.isAlphanum, digit])
      · exact .inr (.inr minus)

theorem label_inj {a b : Node} (same : label a = label b) :
    a.kind = b.kind ∧ a.value = b.value := by
  have valued : a.value.isSome = true ↔ b.value.isSome = true := by
    rw [← blank_mem_label_iff, ← blank_mem_label_iff, same]
  have chars := congrArg String.toList same
  unfold label at chars
  cases left : a.value with
  | none =>
    cases right : b.value with
    | some n => simp [left, right] at valued
    | none =>
      rw [left, right, String.toList_inj] at chars
      exact ⟨Kind.name_injective chars, rfl⟩
  | some m =>
    cases right : b.value with
    | none => simp [left, right] at valued
    | some n =>
      have digits : ' ' ∉ (toString m).toList := fun member => by
        simpa using isDigit_or_minus member
      simp only [left, right, String.toList_append, List.append_assoc] at chars
      obtain ⟨names, _, values⟩ :=
        (List.append_cons_inj_of_notMem (blank_not_mem_name a.kind) digits).mp chars
      exact ⟨Kind.name_injective (String.toList_inj.mp names),
        congrArg some (Int.repr_injective (String.toList_inj.mp values))⟩

def indent (above : List Bool) : List Char := (String.join (above.map guide)).toList

theorem indent_cons (isLast : Bool) (above : List Bool) :
    indent (isLast :: above) = (guide isLast).toList ++ indent above := by
  simp [indent, String.toList_join]

theorem length_indent (above : List Bool) : (indent above).length = 4 * above.length := by
  induction above with
  | nil => rfl
  | cons isLast above ih =>
    have four : (guide isLast).toList.length = 4 := by cases isLast <;> decide
    rw [indent_cons, List.length_append, ih, four, List.length_cons]
    omega

theorem indent_char {above : List Bool} {c : Char} (member : c ∈ indent above) :
    c = ' ' ∨ c = '│' := by
  induction above with
  | nil => simp [indent] at member
  | cons isLast above ih =>
    have guides : ∀ c ∈ (guide isLast).toList, c = ' ' ∨ c = '│' := by
      cases isLast <;> simp [guide]
    rw [indent_cons, List.mem_append] at member
    exact member.elim (guides c) ih

def corner (isLast : Bool) : Char := if isLast then '└' else '├'

theorem row_line (row : Outline.Row) :
    row.line.toList =
      indent row.above ++ corner row.isLast :: '─' :: '─' :: (label row.node).toList := by
  obtain ⟨above, isLast, node⟩ := row
  cases isLast <;> simp [Outline.Row.line, indent, marker, corner]

theorem char_behind_corner {node : Node} {c : Char}
    (member : c ∈ '─' :: '─' :: (label node).toList) :
    c = '─' ∨ c.isAlphanum = true ∨ c = ' ' ∨ c = '-' := by
  simp only [List.mem_cons] at member
  rcases member with dash | dash | inside
  · exact .inl dash
  · exact .inl dash
  · exact .inr (label_char inside)

theorem corner_not_mem (isLast : Bool) (row : Outline.Row) :
    corner isLast ∉ indent row.above ∧
      corner isLast ∉ '─' :: '─' :: (label row.node).toList := by
  constructor
  · intro member
    have char := indent_char member
    cases isLast <;> simp [corner] at char
  · intro member
    have char := char_behind_corner member
    cases isLast <;> simp [corner] at char

theorem newline_not_mem_line (row : Outline.Row) : '\n' ∉ row.line.toList := by
  intro member
  rw [row_line, List.mem_append, List.mem_cons] at member
  rcases member with before | here | behind
  · simpa using indent_char before
  · unfold corner at here
    split at here <;> simp at here
  · simpa using char_behind_corner behind

theorem line_inj {row other : Outline.Row} (same : row.line = other.line) :
    row.above.length = other.above.length ∧ row.node.kind = other.node.kind ∧
      row.node.value = other.node.value := by
  have chars := congrArg String.toList same
  rw [row_line, row_line] at chars
  -- The first corner in a line parts the guides from the label, so both lines have it at one place.
  obtain ⟨before, behind⟩ := corner_not_mem other.isLast row
  obtain ⟨indents, _, rest⟩ := (List.append_cons_inj_of_notMem before behind).mp chars
  have lengths := congrArg List.length indents
  rw [length_indent, length_indent] at lengths
  have labels := String.toList_inj.mp (List.cons.inj (List.cons.inj rest).2).2
  exact ⟨by omega, label_inj labels⟩

/-! Trees. -/

theorem preorderOnto_eq (e : Expr) {above : List Bool} {depth : Nat} (deep : above.length = depth)
    (isLast : Bool) (after : List (Nat × Node)) :
    e.preorderOnto depth after =
      (Outline.ofExpr above isLast e).map (fun row => (row.above.length, row.node)) ++ after := by
  induction e generalizing above depth isLast after with
  | number t => simp [Outline.ofExpr, Expr.preorderOnto, deep]
  | group o e c ih =>
    have below : (above ++ [isLast]).length = depth + 1 := by simp [deep]
    simp [Outline.ofExpr, Expr.preorderOnto, deep, ih below false]
  | binary l op r hl hr =>
    have below : (above ++ [isLast]).length = depth + 1 := by simp [deep]
    simp [Outline.ofExpr, Expr.preorderOnto, deep, hl below false, hr below true]
  | unary op e ih =>
    have below : (above ++ [isLast]).length = depth + 1 := by simp [deep]
    simp [Outline.ofExpr, Expr.preorderOnto, deep, ih below true]

theorem preorder_eq (node : Node) :
    node.preorder = (Outline.ofNode node).map fun row => (row.above.length, row.node) := by
  cases node with
  | token t => rfl
  | expr e =>
    have rows := preorderOnto_eq e (show ([] : List Bool).length = 0 from rfl) true []
    rwa [List.append_nil] at rows

theorem bare_of_features {t u : Token} {depth : Nat} {after behind : List (Nat × Node)}
    (same : ((depth, .token t) :: after).map features =
      ((depth, .token u) :: behind).map features) :
    t.bare = u.bare ∧ after.map features = behind.map features := by
  obtain ⟨here, later⟩ := List.cons.inj same
  obtain ⟨kind, value⟩ : t.kind = u.kind ∧ t.value = u.value := by
    simpa [features, Node.kind, Node.value] using here
  exact ⟨by simp [Token.bare, kind, value], later⟩

/-- The preorder of a tree is read from the front, and tells where the tree ends. -/
theorem bare_of_preorderOnto {a b : Expr} {depth : Nat} {after behind : List (Nat × Node)}
    (same : (a.preorderOnto depth after).map features =
      (b.preorderOnto depth behind).map features) :
    a.mapTokens .bare = b.mapTokens .bare ∧ after.map features = behind.map features := by
  -- What follows a tree stays general: inside a larger one it holds the siblings that come later.
  induction a generalizing b depth after behind with
  | number t =>
    cases b with
    | number u =>
      obtain ⟨token, later⟩ := bare_of_features (List.cons.inj same).2
      exact ⟨congrArg Expr.number token, later⟩
    | _ => simp [Expr.preorderOnto, features, Node.kind, Expr.kind] at same
  | group o e c ih =>
    cases b with
    | group o' e' c' =>
      obtain ⟨opening, inside⟩ := bare_of_features (List.cons.inj same).2
      obtain ⟨tree, rest⟩ := ih inside
      obtain ⟨closing, later⟩ := bare_of_features rest
      exact ⟨by simp only [Expr.mapTokens, opening, tree, closing], later⟩
    | _ => simp [Expr.preorderOnto, features, Node.kind, Expr.kind] at same
  | binary l op r hl hr =>
    cases b with
    | binary l' op' r' =>
      obtain ⟨left, rest⟩ := hl (List.cons.inj same).2
      obtain ⟨operator, rest⟩ := bare_of_features rest
      obtain ⟨right, later⟩ := hr rest
      exact ⟨by simp only [Expr.mapTokens, left, operator, right], later⟩
    | _ => simp [Expr.preorderOnto, features, Node.kind, Expr.kind] at same
  | unary op e ih =>
    cases b with
    | unary op' e' =>
      obtain ⟨operator, rest⟩ := bare_of_features (List.cons.inj same).2
      obtain ⟨operand, later⟩ := ih rest
      exact ⟨by simp only [Expr.mapTokens, operator, operand], later⟩
    | _ => simp [Expr.preorderOnto, features, Node.kind, Expr.kind] at same

theorem length_skeleton (node : Node) : node.skeleton.length = node.size := by
  rw [Node.skeleton, List.length_map, preorder_eq, List.length_map, Outline.length_ofNode]

theorem bare_of_skeleton {a b : Node} (same : a.skeleton = b.skeleton) :
    a.mapTokens .bare = b.mapTokens .bare := by
  have sizes := congrArg List.length same
  rw [length_skeleton, length_skeleton] at sizes
  cases a with
  | token t =>
    cases b with
    | token u => exact congrArg Node.token (bare_of_features same).1
    | expr e => cases e <;> simp [Node.size, Expr.size] at sizes
  | expr e =>
    cases b with
    | token u => cases e <;> simp [Node.size, Expr.size] at sizes
    | expr e' => exact congrArg Node.expr (bare_of_preorderOnto same).1

theorem ofExpr_mapTokens (f : Token → Token) (above : List Bool) (isLast : Bool) (e : Expr) :
    Outline.ofExpr above isLast (e.mapTokens f) =
      (Outline.ofExpr above isLast e).map fun row => { row with node := row.node.mapTokens f } := by
  induction e generalizing above isLast with
  | number t => simp [Outline.ofExpr, Expr.mapTokens, Node.mapTokens]
  | group o e c ih => simp [Outline.ofExpr, Expr.mapTokens, Node.mapTokens, ih]
  | binary l op r hl hr => simp [Outline.ofExpr, Expr.mapTokens, Node.mapTokens, hl, hr]
  | unary op e ih => simp [Outline.ofExpr, Expr.mapTokens, Node.mapTokens, ih]

theorem label_bare (node : Node) : label (node.mapTokens .bare) = label node := by
  cases node with
  | token t => rfl
  | expr e => cases e <;> rfl

theorem ofNode_bare (node : Node) : ofNode (node.mapTokens .bare) = ofNode node := by
  rw [Outline.draw_ofNode, Outline.draw_ofNode]
  cases node with
  | token t => rfl
  | expr e =>
    show (Outline.ofExpr [] true (e.mapTokens .bare)).map _ = _
    rw [ofExpr_mapTokens, List.map_map]
    exact List.map_congr_left fun row _ => by simp [Outline.Row.line, label_bare]

/-! Texts. -/

def shown (row : Outline.Row) : Nat × Kind × Option Int := features (row.above.length, row.node)

theorem exists_reader : ∃ read, shown = read ∘ Outline.Row.line := by
  refine (Function.factorsThrough_iff shown).mp fun row other same => ?_
  obtain ⟨depth, kind, value⟩ := line_inj same
  simp [shown, features, depth, kind, value]

theorem skeleton_of_lines {a b : Node} (same : ofNode a = ofNode b) : a.skeleton = b.skeleton := by
  obtain ⟨read, reads⟩ := exists_reader
  have skeleton (node : Node) : node.skeleton = (ofNode node).map read := by
    rw [Node.skeleton, preorder_eq, Outline.draw_ofNode, List.map_map, List.map_map, ← reads]
    rfl
  rw [skeleton, skeleton, same]

theorem lines_of_text (node : Node) :
    (text node).toList.splitOn '\n' = (ofNode node).map String.toList := by
  have filled : (ofNode node).map String.toList ≠ [] := by
    rw [Outline.draw_ofNode, List.map_map, ← List.length_pos_iff, List.length_map,
      Outline.length_ofNode, Node.size_eq]
    exact Nat.succ_pos _
  rw [text, String.toList_intercalate]
  refine List.splitOn_intercalate _ ?_ filled
  intro line member
  rw [Outline.draw_ofNode, List.map_map] at member
  obtain ⟨row, _, rfl⟩ := List.mem_map.mp member
  exact newline_not_mem_line row

theorem ofNode_of_text {a b : Node} (same : text a = text b) : ofNode a = ofNode b := by
  have lines : (ofNode a).map String.toList = (ofNode b).map String.toList := by
    rw [← lines_of_text, ← lines_of_text, same]
  exact List.map_injective_iff.mpr (fun _ _ => String.toList_inj.mp) lines

theorem text_eq_text_iff {a b : Node} : text a = text b ↔ a.skeleton = b.skeleton := by
  refine ⟨fun same => skeleton_of_lines (ofNode_of_text same), fun same => ?_⟩
  rw [text, text, ← ofNode_bare a, ← ofNode_bare b, bare_of_skeleton same]

theorem evaluate_of_text {a b : Expr} (same : text (.expr a) = text (.expr b)) :
    a.evaluate.mapError (Fault.mapToken .bare) = b.evaluate.mapError (Fault.mapToken .bare) := by
  have tree : a.mapTokens .bare = b.mapTokens .bare :=
    Node.expr.inj (bare_of_skeleton (text_eq_text_iff.mp same))
  have result (e : Expr) :
      e.evaluate.mapError (Fault.mapToken .bare) = Evaluation.result (e.mapTokens .bare) := by
    rw [Evaluation.evaluate_eq_result,
      Evaluation.result_mapTokens (f := Token.bare) (fun _ => rfl) (fun _ => rfl)]
  rw [result, result, tree]

/-- A drawing tells depth, kind and value of every node in preorder and nothing else. That is enough
to evaluate a tree: lines without diagnostics whose trees are drawn alike have the same value or
both divide by zero. -/
theorem drawing_determines_the_tree :
    (∀ a b : Node, text a = text b ↔ a.skeleton = b.skeleton) ∧
    (∀ a b : Expr, text (.expr a) = text (.expr b) →
      a.evaluate.mapError (Fault.mapToken .bare) = b.evaluate.mapError (Fault.mapToken .bare)) ∧
    ∀ s t : String, (parse s).diagnostics = [] → (parse t).diagnostics = [] →
      text (.expr (parse s).root) = text (.expr (parse t).root) →
      (parse s).root.evaluate = (parse t).root.evaluate := by
  refine ⟨fun a b => text_eq_text_iff, fun a b => evaluate_of_text, ?_⟩
  intro s t clean cleanOther same
  have results := evaluate_of_text same
  rcases root_ends_of_clean clean with ⟨m, value, _⟩ | fault
  · rcases root_ends_of_clean cleanOther with ⟨n, other, _⟩ | other
    · rw [value, other] at results ⊢
      exact congrArg _ (Except.ok.inj results)
    · rw [value, other] at results
      cases results
  · rcases root_ends_of_clean cleanOther with ⟨n, other, _⟩ | other
    · rw [fault, other] at results
      cases results
    · rw [fault, other]

theorem padded_division_is_drawn_and_faults_alike :
    text (.expr (parse "7/(3-3)").root) = text (.expr (parse "07/( 3 - 3 )").root) ∧
      (parse "7/(3-3)").root.evaluate = (parse "07/( 3 - 3 )").root.evaluate := by
  have drawn : text (.expr (parse "7/(3-3)").root) = text (.expr (parse "07/( 3 - 3 )").root) :=
    (drawing_determines_the_tree.1 _ _).mpr (by decide +kernel)
  exact ⟨drawn, drawing_determines_the_tree.2.2 _ _ (by decide +kernel) (by decide +kernel) drawn⟩

end Drawing
end LineCalc
