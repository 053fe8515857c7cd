import LineCalc.Syntax.Expr

/-!
Trees drawn as text, one line for each node:

    └──BinaryExpression
        ├──NumberExpression
        │   └──NumberToken 1
        ├──PlusToken
        └──NumberExpression
            └──NumberToken 2
-/
namespace LineCalc.Drawing
open Syntax

def marker (isLast : Bool) : String := if isLast then "└──" else "├──"

def guide (isLast : Bool) : String := if isLast then "    " else "│   "

def label (node : Node) : String :=
  match node.value with
  | some value => node.kind.name ++ " " ++ toString value
  | none => node.kind.name

structure Entry where
  node : Node
  indent : String
  isLast : Bool

def Entry.line (entry : Entry) : String := entry.indent ++ marker entry.isLast ++ label entry.node

def entries (indent : String) : List Node → List Entry
  | [] => []
  | [node] => [⟨node, indent, true⟩]
  | node :: next :: rest => ⟨node, indent, false⟩ :: entries indent (next :: rest)

theorem nodes_entries (indent : String) (nodes : List Node) :
    (entries indent nodes).map Entry.node = nodes := by
  fun_induction entries indent nodes with
  | case1 => rfl
  | case2 => rfl
  | case3 node next rest ih => rw [List.map_cons, ih]

def Entry.children (entry : Entry) : List Entry :=
  entries (entry.indent ++ guide entry.isLast) entry.node.children

def weight (pending : List Entry) : Nat := Node.totalSize (pending.map Entry.node)

/-- Draws the pending entries in order, the children of each before the entries after it. -/
def draw : (pending : List Entry) → List String
  | [] => []
  | entry :: rest => entry.line :: draw (entry.children ++ rest)
termination_by pending => weight pending
decreasing_by
  have size := Node.size_eq entry.node
  simp only [weight, Entry.children, List.map_append, Node.totalSize_append, nodes_entries,
    List.map_cons, Node.totalSize]
  omega

def ofNode (node : Node) : List String := draw [⟨node, "", true⟩]

end LineCalc.Drawing
