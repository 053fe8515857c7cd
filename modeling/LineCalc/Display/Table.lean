import LineCalc.Text.Width

/-!
Tables in a box, their columns as wide as their widest cells.
-/
namespace LineCalc.Display

inductive Side where
  | left
  | right
  deriving DecidableEq, Repr

structure Column where
  heading : String
  side : Side := .left
  deriving DecidableEq, Repr

structure Table where
  title : String
  columns : List Column
  rows : List (List String)
  deriving DecidableEq, Repr

namespace Table

def spaces (n : Nat) : String := String.ofList (List.replicate n ' ')

def rule (n : Nat) (c : Char) : String := String.ofList (List.replicate n c)

def pad (side : Side) (columns : Nat) (s : String) : String :=
  match side with
  | .left => s ++ spaces (columns - Text.width s)
  | .right => spaces (columns - Text.width s) ++ s

/-- Where the room cannot be halved the larger part is on the right. -/
def center (columns : Nat) (s : String) : String :=
  let room := columns - Text.width s
  spaces (room / 2) ++ s ++ spaces (room - room / 2)

def cellWidth (table : Table) (index : Nat) (column : Column) : Nat :=
  (table.rows.map fun row => Text.width (row.getD index "")).foldl max (Text.width column.heading)

def widths (table : Table) : List Nat :=
  table.columns.zipIdx.map fun (column, index) => table.cellWidth index column

structure Edge where
  left : String
  joint : String
  right : String
  run : Char

def edgeLine (widths : List Nat) (edge : Edge) : String :=
  edge.left ++ edge.joint.intercalate (widths.map fun n => rule (n + 2) edge.run) ++ edge.right

def cellLine (bar : String) (cells : List String) : String :=
  bar ++ bar.intercalate (cells.map fun cell => " " ++ cell ++ " ") ++ bar

def lines (table : Table) : List String :=
  let widths := table.widths
  let line (bar : String) (cells : List String) : String :=
    cellLine bar <|
      ((table.columns.zip widths).zip cells).map fun ((column, n), cell) => pad column.side n cell
  let total := widths.foldl (fun n width => n + width + 3) 1
  [center total table.title, edgeLine widths ⟨"┏", "┳", "┓", '━'⟩,
      line "┃" (table.columns.map Column.heading), edgeLine widths ⟨"┡", "╇", "┩", '━'⟩] ++
    table.rows.map (line "│") ++ [edgeLine widths ⟨"└", "┴", "┘", '─'⟩]

end Table
end LineCalc.Display
