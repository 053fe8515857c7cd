import LineCalc.Toml.Value

/-!
TOML documents: lines that open tables and lines that give names their values.
-/
namespace LineCalc.Toml

structure Draft where
  entries : Entries := []
  /-- The table that names are given values in. -/
  header : Key := []
  /-- Tables that were opened, and may not be opened again. -/
  opened : List Key := []
  /-- Tables that dotted keys made. They count as opened from the next header on. -/
  dotted : List Key := []
  /-- Arrays and inline tables, to which nothing is added. -/
  complete : List Key := []

namespace Draft

def openTable (draft : Draft) (key : Key) : Except Error Draft := do
  let opened := draft.dotted ++ draft.opened
  if key ∈ opened || isWithin draft.complete key then .error .malformed
  else
    let entries ← withNest true .ok key draft.entries
    return { draft with entries, header := key, opened := key :: opened, dotted := [] }

def appendTable (name : String) (entries : Entries) : Except Error Entries :=
  match entries.lookup name with
  | none => .ok (entries ++ [(name, .list [.table []])])
  | some (.list items) => .ok (Entries.put name (.list (items ++ [.table []])) entries)
  | some _ => .error .malformed

/-- A header for one more table in an array. What was opened in the table before it may be opened
again. -/
def openItem (draft : Draft) (key : Key) : Except Error Draft := do
  if isWithin draft.complete key then .error .malformed
  else
    let isOutside (k : Key) : Bool := !key.isPrefixOf k
    let entries ← withNest true (appendTable (key.getLastD "")) key.dropLast draft.entries
    let opened := key :: (draft.dotted ++ draft.opened).filter isOutside
    let complete := draft.complete.filter isOutside
    return { entries, header := key, opened, complete }

def assign (draft : Draft) (key : Key) (value : Data) : Except Error Draft := do
  let containers := (List.range' 1 (key.length - 1)).map fun n => draft.header ++ key.take n
  if containers.any (· ∈ draft.opened) then .error .malformed
  else if isWithin draft.complete (draft.header ++ key.dropLast) then .error .malformed
  else
    let entries ←
      withNest true (addNew (key.getLastD "") value) (draft.header ++ key.dropLast) draft.entries
    let complete :=
      if isCompound value then (draft.header ++ key) :: draft.complete else draft.complete
    return { draft with entries, dotted := containers ++ draft.dotted, complete }

end Draft

def startsKey (c : Char) : Bool := isBareKeyChar c || c = '\x22' || c = '\x27'

def statement (draft : Draft) (cs : List Char) : Except Error (Part Draft) :=
  match cs with
  | '[' :: '[' :: r => do
    let (name, r) ← key (skipSpace r)
    let draft ← draft.openItem name
    match r with
    | ']' :: ']' :: rest => return (draft, rest)
    | _ => .error .malformed
  | '[' :: r => do
    let (name, r) ← key (skipSpace r)
    let draft ← draft.openTable name
    match r with
    | ']' :: rest => return (draft, rest)
    | _ => .error .malformed
  | '#' :: _ => .ok (draft, cs)
  | c :: _ =>
    if startsKey c then do
      let ((name, item), rest) ← assignment cs
      let draft ← draft.assign name item
      return (draft, rest)
    else .error .malformed
  | [] => .ok (draft, cs)

def statements : (rounds : Nat) → Draft → List Char → Except Error Draft
  | 0, _, _ => .error .malformed
  | rounds + 1, draft, cs =>
    match skipSpace cs with
    | [] => .ok draft
    | '\n' :: r => statements rounds draft r
    | line => do
      let (draft, r) ← statement draft line
      match ← skipComment (skipSpace r) with
      | [] => return draft
      | '\n' :: r => statements rounds draft r
      | _ => .error .malformed

/-- A line may end with a carriage return before its line feed, in texts too. -/
def joinLineEnds : List Char → List Char
  | [] => []
  | '\r' :: '\n' :: r => '\n' :: joinLineEnds r
  | c :: r => c :: joinLineEnds r

def parse (s : String) : Except Error Entries :=
  let cs := joinLineEnds s.toList
  (statements (cs.length + 1) {} cs).map Draft.entries

end LineCalc.Toml
