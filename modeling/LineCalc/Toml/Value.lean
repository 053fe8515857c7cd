import LineCalc.Toml.Scalar

/-!
Values of a TOML document: texts, truth values, numbers, moments, arrays and inline tables.
-/
namespace LineCalc.Toml

/-- Changes the entries at a path, which is made where it is missing. Where lists may be entered, the
last item of a list stands for it. -/
def withNest (enterLists : Bool) (change : Entries → Except Error Entries) :
    (path : Key) → Entries → Except Error Entries
  | [], entries => change entries
  | name :: path, entries => do
    match entries.lookup name with
    | none =>
      let inner ← withNest enterLists change path []
      return Entries.put name (.table inner) entries
    | some (.table inner) =>
      let inner ← withNest enterLists change path inner
      return Entries.put name (.table inner) entries
    | some (.list items) =>
      match enterLists, items.getLast? with
      | true, some (.table inner) =>
        let inner ← withNest enterLists change path inner
        return Entries.put name (.list (items.dropLast ++ [.table inner])) entries
      | _, _ => .error .malformed
    | some _ => .error .malformed

def addNew (name : String) (value : Data) (entries : Entries) : Except Error Entries :=
  if (entries.lookup name).isSome then .error .malformed else .ok (entries ++ [(name, value)])

def isCompound : Data → Bool
  | .list _ | .table _ => true
  | _ => false

/-- Some part of the key, from its first name on, is among the keys. -/
def isWithin (keys : List Key) (key : Key) : Bool := keys.any (·.isPrefixOf key)

def skipBetweenItems : (rounds : Nat) → List Char → Except Error (List Char)
  | 0, cs => .ok cs
  | rounds + 1, cs => do
    match skipSpaceAndLines cs with
    | '#' :: r => skipBetweenItems rounds (← skipComment ('#' :: r))
    | rest => return rest

def between (cs : List Char) : Except Error (List Char) := skipBetweenItems (cs.length + 1) cs

def scalar (cs : List Char) : Except Error (Part Data) :=
  match date? cs with
  | some read => read.map fun (moment, rest) => (.moment moment, rest)
  | none =>
    match time? cs with
    | some (time, rest) => .ok (.moment (.time time), rest)
    | none =>
      match number? cs with
      | some read => read
      | none =>
        match specialFloat? cs with
        | some (x, rest) => .ok (.float x, rest)
        | none => .error .malformed

structure InlineTable where
  entries : Entries := []
  complete : List Key := []

def InlineTable.add (table : InlineTable) (key : Key) (value : Data) :
    Except Error InlineTable := do
  if isWithin table.complete key then .error .malformed
  else
    let entries ← withNest false (addNew (key.getLastD "") value) key.dropLast table.entries
    let complete := if isCompound value then key :: table.complete else table.complete
    return { entries, complete }

mutual

/-- Reads a value. Each round takes a character, so as many rounds as there are characters are
enough. -/
def value : (rounds : Nat) → List Char → Except Error (Part Data)
  | 0, _ => .error .malformed
  | rounds + 1, cs =>
    match cs with
    | '\x22' :: '\x22' :: '\x22' :: r => (basicLines r).map fun (s, rest) => (.text s, rest)
    | '\x22' :: r => (basicText r).map fun (s, rest) => (.text s, rest)
    | '\x27' :: '\x27' :: '\x27' :: r =>
      (literalLinesText r).map fun (s, rest) => (.text s, rest)
    | '\x27' :: r => (literalText r).map fun (s, rest) => (.text s, rest)
    | 't' :: 'r' :: 'u' :: 'e' :: rest => .ok (.bool true, rest)
    | 'f' :: 'a' :: 'l' :: 's' :: 'e' :: rest => .ok (.bool false, rest)
    | '[' :: r => do
      let (items, rest) ← arrayItems rounds (← between r)
      return (.list items, rest)
    | '\x7b' :: r =>
      match skipSpace r with
      | '\x7d' :: rest => .ok (.table [], rest)
      | r => (inlineEntries rounds {} r).map fun (entries, rest) => (.table entries, rest)
    | _ => scalar cs

def arrayItems : (rounds : Nat) → List Char → Except Error (Part (List Data))
  | 0, _ => .error .malformed
  | rounds + 1, cs =>
    match cs with
    | ']' :: rest => .ok ([], rest)
    | _ => do
      let (item, r) ← value rounds cs
      match ← between r with
      | ']' :: rest => return ([item], rest)
      | ',' :: r =>
        let (items, rest) ← arrayItems rounds (← between r)
        return (item :: items, rest)
      | _ => .error .malformed

def inlineEntries : (rounds : Nat) → InlineTable → List Char → Except Error (Part Entries)
  | 0, _, _ => .error .malformed
  | rounds + 1, table, cs => do
    let (name, r) ← key cs
    match r with
    | '=' :: r =>
      let (item, r) ← value rounds (skipSpace r)
      let table ← table.add name item
      match skipSpace r with
      | '\x7d' :: rest => return (table.entries, rest)
      | ',' :: r => inlineEntries rounds table (skipSpace r)
      | _ => .error .malformed
    | _ => .error .malformed

end

def assignment (cs : List Char) : Except Error (Part (Key × Data)) := do
  let (name, r) ← key cs
  match r with
  | '=' :: r =>
    let (item, rest) ← value (r.length + 1) (skipSpace r)
    return ((name, item), rest)
  | _ => .error .malformed

end LineCalc.Toml
