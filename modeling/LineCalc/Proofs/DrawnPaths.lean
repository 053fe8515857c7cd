import LineCalc.Outline

/-!
Where the lines of a drawing come from. A node is known by the path to it from the root, which says
at each node on the way which of its children is next. The lines stand in the order of the paths,
and each shows which nodes on its path are last children and which node it leads to.
-/
namespace LineCalc

namespace Syntax

def Node.at? : Node → List Nat → Option Node
  | node, [] => some node
  | node, i :: path => node.children[i]?.bind fun child => child.at? path

/-- Whether a path leads to the last child of a node; `start` says so of the path that goes
nowhere. -/
def Node.lastAt (start : Bool) (node : Node) (path : List Nat) : Bool :=
  match path.getLast? with
  | none => start
  | some i => (node.at? path.dropLast).any fun parent => i + 1 == parent.children.length

def Node.caption : Node → String
  | .token t => t.kind.name ++ (t.value.map fun n => " " ++ toString n).getD ""
  | .expr e => e.kind.name

/-- The line of the node at a path. The root counts as a last child. -/
def Node.lineAt? (root : Node) (path : List Nat) : Option String :=
  (root.at? path).map fun node =>
    String.join ((List.range path.length).map fun above =>
        if root.lastAt true (path.take above) then "    " else "│   ") ++
      (if root.lastAt true path then "└──" else "├──") ++ node.caption

/-- The paths to the children of a node and on from there, given those from each child. The first
child has the number `i`. -/
def branches : (i : Nat) → List (List (List Nat)) → List (List Nat)
  | _, [] => []
  | i, below :: others => below.map (i :: ·) ++ branches (i + 1) others

def Expr.paths : Expr → List (List Nat)
  | .number _ => [] :: branches 0 [[[]]]
  | .group _ e _ => [] :: branches 0 [[[]], e.paths, [[]]]
  | .binary l _ r => [] :: branches 0 [l.paths, [[]], r.paths]
  | .unary _ e => [] :: branches 0 [[[]], e.paths]

def Node.paths : Node → List (List Nat)
  | .token _ => [[]]
  | .expr e => e.paths

variable {node child : Node} {i : Nat} {path : List Nat} {lists : List (List (List Nat))}

/-! Paths. -/

theorem Node.at?_cons (here : node.children[i]? = some child) (path : List Nat) :
    node.at? (i :: path) = child.at? path := by rw [at?, here, Option.bind_some]

theorem Node.lastAt_nil (start : Bool) (node : Node) : node.lastAt start [] = start := rfl

theorem Node.lastAt_cons (here : node.children[i]? = some child) (start : Bool) (path : List Nat) :
    node.lastAt start (i :: path) = child.lastAt (i + 1 == node.children.length) path := by
  cases path with
  | nil => rfl
  | cons j path =>
    rw [lastAt, lastAt, List.getLast?_cons_cons, List.dropLast_cons_cons, at?_cons here]
    rfl

theorem Node.mem_paths_token (t : Token) (path : List Nat) :
    path ∈ (token t).paths ↔ ((token t).at? path).isSome = true := by
  cases path <;> simp [paths, at?, children]

theorem Expr.mem_paths_iff (e : Expr) (path : List Nat) :
    path ∈ e.paths ↔ ((Node.expr e).at? path).isSome = true := by
  induction e generalizing path with
  | number t =>
    rcases path with _ | ⟨_ | i, path⟩
    all_goals simp [paths, branches, Node.at?, Node.children, ← Node.mem_paths_token, Node.paths]
  | group o e c ih =>
    rcases path with _ | ⟨_ | _ | _ | i, path⟩
    all_goals
      simp [paths, branches, Node.at?, Node.children, ih, ← Node.mem_paths_token, Node.paths]
  | binary l op r hl hr =>
    rcases path with _ | ⟨_ | _ | _ | i, path⟩
    all_goals
      simp [paths, branches, Node.at?, Node.children, hl, hr, ← Node.mem_paths_token, Node.paths]
  | unary op e ih =>
    rcases path with _ | ⟨_ | _ | i, path⟩
    all_goals
      simp [paths, branches, Node.at?, Node.children, ih, ← Node.mem_paths_token, Node.paths]

theorem Node.mem_paths_iff (node : Node) (path : List Nat) :
    path ∈ node.paths ↔ (node.at? path).isSome = true := by
  cases node with
  | token t => exact mem_paths_token t path
  | expr e => exact e.mem_paths_iff path

theorem exists_of_mem_branches (member : path ∈ branches i lists) :
    ∃ j rest, path = j :: rest ∧ i ≤ j := by
  induction lists generalizing i with
  | nil => simp [branches] at member
  | cons below others ih =>
    rcases List.mem_append.mp member with here | later
    · obtain ⟨rest, _, rfl⟩ := List.mem_map.mp here
      exact ⟨i, rest, rfl, Nat.le_refl i⟩
    · obtain ⟨j, rest, same, behind⟩ := ih later
      exact ⟨j, rest, same, Nat.le_of_succ_le behind⟩

theorem branches_ascending (ascending : ∀ below ∈ lists, below.Pairwise (· < ·)) (i : Nat) :
    (branches i lists).Pairwise (· < ·) := by
  induction lists generalizing i with
  | nil => exact .nil
  | cons below others ih =>
    obtain ⟨here, later⟩ := List.forall_mem_cons.mp ascending
    refine List.pairwise_append.mpr ⟨?_, ih later (i + 1), ?_⟩
    · exact List.pairwise_map.mpr (here.imp List.Lex.cons)
    · intro p member q further
      obtain ⟨front, _, rfl⟩ := List.mem_map.mp member
      obtain ⟨j, rest, rfl, behind⟩ := exists_of_mem_branches further
      exact .rel behind

theorem cons_branches_ascending (ascending : ∀ below ∈ lists, below.Pairwise (· < ·)) (i : Nat) :
    ([] :: branches i lists).Pairwise (· < ·) := by
  refine List.pairwise_cons.mpr ⟨fun path member => ?_, branches_ascending ascending i⟩
  obtain ⟨j, rest, rfl, _⟩ := exists_of_mem_branches member
  exact .nil

theorem Expr.paths_ascending (e : Expr) : e.paths.Pairwise (· < ·) := by
  induction e with
  | number t => exact cons_branches_ascending (by simp) 0
  | group o e c ih => exact cons_branches_ascending (by simp [ih]) 0
  | binary l op r hl hr => exact cons_branches_ascending (by simp [hl, hr]) 0
  | unary op e ih => exact cons_branches_ascending (by simp [ih]) 0

theorem Node.paths_ascending (node : Node) : node.paths.Pairwise (· < ·) := by
  cases node with
  | token t => exact List.pairwise_singleton _ []
  | expr e => exact e.paths_ascending

end Syntax

namespace Outline
open Syntax
open Drawing (draw)

def Row.at? (row : Row) (path : List Nat) : Option Row :=
  (row.node.at? path).map fun node =>
    { above := row.above ++ (List.range path.length).map fun above =>
        row.node.lastAt row.isLast (path.take above)
      isLast := row.node.lastAt row.isLast path
      node }

def Row.entry (row : Row) : Drawing.Entry :=
  ⟨row.node, String.join (row.above.map Drawing.guide), row.isLast⟩

variable {row : Row} {child : Node} {i : Nat}

theorem Row.at?_nil (row : Row) : row.at? [] = some row := by
  simp [at?, Node.at?, Node.lastAt_nil]

theorem Row.at?_cons (here : row.node.children[i]? = some child) (path : List Nat) :
    row.at? (i :: path) =
      at? ⟨row.above ++ [row.isLast], i + 1 == row.node.children.length, child⟩ path := by
  simp [at?, Node.at?_cons here, Node.lastAt_cons here, Node.lastAt_nil, List.range_succ_eq_map,
    Function.comp_def]

theorem ofExpr_eq (above : List Bool) (isLast : Bool) (e : Expr) :
    (ofExpr above isLast e).map some = e.paths.map (Row.at? ⟨above, isLast, .expr e⟩) := by
  induction e generalizing above isLast with
  | number t =>
    simp [ofExpr, Expr.paths, branches, Row.at?_nil, Row.at?_cons, Node.children]
  | group o e c ih =>
    simp [ofExpr, Expr.paths, branches, Row.at?_nil, Row.at?_cons, Node.children, ih,
      Function.comp_def]
  | binary l op r hl hr =>
    simp [ofExpr, Expr.paths, branches, Row.at?_nil, Row.at?_cons, Node.children, hl, hr,
      Function.comp_def]
  | unary op e ih =>
    simp [ofExpr, Expr.paths, branches, Row.at?_nil, Row.at?_cons, Node.children, ih,
      Function.comp_def]

/-! The rows and what is drawn. -/

theorem draw_row (row : Row) (rest : List Drawing.Entry) :
    draw (row.entry :: rest) =
      row.line :: draw
        (Drawing.entries (String.join ((row.above ++ [row.isLast]).map Drawing.guide))
          row.node.children ++ rest) := by
  rw [draw, Drawing.Entry.children, List.map_append, String.join_append]
  simp [Row.entry, Row.line, Drawing.Entry.line]

theorem draw_token (above : List Bool) (isLast : Bool) (t : Token) (rest : List Drawing.Entry) :
    draw (Row.entry ⟨above, isLast, .token t⟩ :: rest) =
      Row.line ⟨above, isLast, .token t⟩ :: draw rest := draw_row _ rest

/-- An expression that is to be drawn is drawn with all that is below it, before the entries that
were there already. -/
theorem draw_ofExpr (above : List Bool) (isLast : Bool) (e : Expr) (rest : List Drawing.Entry) :
    draw (Row.entry ⟨above, isLast, .expr e⟩ :: rest) =
      (ofExpr above isLast e).map Row.line ++ draw rest := by
  -- What is to be drawn later stays general: the later children of a node wait there.
  induction e generalizing above isLast rest with
  | number t =>
    rw [draw_row]
    exact congrArg _ (draw_token (above ++ [isLast]) true t rest)
  | group o e c ih =>
    rw [draw_row]
    show _ :: draw (Row.entry ⟨above ++ [isLast], false, .token o⟩ ::
      Row.entry ⟨above ++ [isLast], false, .expr e⟩ ::
      Row.entry ⟨above ++ [isLast], true, .token c⟩ :: rest) = _
    rw [draw_token, ih, draw_token]
    simp [ofExpr]
  | binary l op r hl hr =>
    rw [draw_row]
    show _ :: draw (Row.entry ⟨above ++ [isLast], false, .expr l⟩ ::
      Row.entry ⟨above ++ [isLast], false, .token op⟩ ::
      Row.entry ⟨above ++ [isLast], true, .expr r⟩ :: rest) = _
    rw [hl, draw_token, hr]
    simp [ofExpr]
  | unary op e ih =>
    rw [draw_row]
    show _ :: draw (Row.entry ⟨above ++ [isLast], false, .token op⟩ ::
      Row.entry ⟨above ++ [isLast], true, .expr e⟩ :: rest) = _
    rw [draw_token, ih]
    simp [ofExpr]

theorem draw_ofNode (node : Node) : Drawing.ofNode node = (ofNode node).map Row.line := by
  have ended : draw [] = [] := by rw [draw]
  cases node with
  | token t =>
    have drawn := draw_token [] true t []
    rw [ended] at drawn
    exact drawn
  | expr e =>
    have drawn := draw_ofExpr [] true e []
    rw [ended, List.append_nil] at drawn
    exact drawn

theorem label_eq_caption (node : Node) : Drawing.label node = node.caption := by
  cases node with
  | token t =>
    cases value : t.value with
    | none => simp [Drawing.label, Node.value, Node.kind, Node.caption, value]
    | some n =>
      simp [Drawing.label, Node.value, Node.kind, Node.caption, value, String.append_assoc]
  | expr e => rfl

theorem line_at? (root : Node) (path : List Nat) :
    (Row.at? ⟨[], true, root⟩ path).map Row.line = root.lineAt? path := by
  simp [Row.at?, Node.lineAt?, Row.line, Function.comp_def, label_eq_caption, Drawing.guide,
    Drawing.marker]

/-- What is drawn of a node is the outline of it, and that has one line for every node, in preorder:
the line of the node at a path tells from the root on which nodes on the path are last children, and
then what the node is. -/
theorem drawing_has_the_line_of_every_path (root : Node) :
    Drawing.ofNode root = (ofNode root).map Row.line ∧
    ∃ paths : List (List Nat), paths.Pairwise (· < ·) ∧
      (∀ path, path ∈ paths ↔ (root.at? path).isSome = true) ∧
      (Drawing.ofNode root).map some = paths.map root.lineAt? := by
  have rows : (ofNode root).map some = root.paths.map (Row.at? ⟨[], true, root⟩) := by
    cases root with
    | token t => simp [ofNode, Node.paths, Row.at?_nil]
    | expr e => exact ofExpr_eq [] true e
  refine ⟨draw_ofNode root, root.paths, root.paths_ascending, root.mem_paths_iff, ?_⟩
  calc (Drawing.ofNode root).map some
    _ = ((ofNode root).map some).map (Option.map Row.line) := by
      rw [draw_ofNode, List.map_map, List.map_map]
      rfl
    _ = root.paths.map root.lineAt? := by
      rw [rows, List.map_map]
      exact List.map_congr_left fun path _ => line_at? root path

example : (Node.expr (.binary (.number ⟨.number, 0, none, some 1⟩) ⟨.plus, 2, none, none⟩
    (.number ⟨.number, 4, none, some (-2)⟩))).lineAt? [0, 0] = some "    │   └──NumberToken 1" := by
  decide +kernel

end Outline
end LineCalc
