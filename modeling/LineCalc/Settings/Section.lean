import LineCalc.Data.Value
import LineCalc.Settings.Basic

/-!
A section of settings as named entries. It may also be written as a list of pairs, and a name then
need not be a text.
-/
namespace LineCalc.Section

/-- Numbers and truth values that are equal are one name, and so are moments. -/
def sameName : Data → Data → Bool
  | .text a, .text b => a == b
  | .null, .null => true
  | .moment a, .moment b => a.same b
  | .float a, .float b => a.equals b
  | a, b =>
    match number? a, number? b with
    | some m, some n => m == n
    | _, _ => false
where
  number? : Data → Option Int
    | .int n => some n
    | .bool b => some (if b then 1 else 0)
    | .float x => x.whole?
    | _ => none

abbrev Named := List (Data × Data)

/-- A name that is there already keeps its place and gets the new value. -/
def put (name value : Data) : Named → Named
  | [] => [(name, value)]
  | (other, old) :: rest =>
    if sameName other name then (other, value) :: rest else (other, old) :: put name value rest

/-- An item that can be split in parts: a text in its characters, a table in its names. -/
def parts? : Data → Option (List Data)
  | .text s => some (s.toList.map fun c => .text c.toString)
  | .list items => some items
  | .table entries => some (entries.map fun entry => .text entry.1)
  | _ => none

def checkName (name : Data) : Except SettingsError Data :=
  match name with
  | .list _ | .table _ => .error (.badName name.typeName)
  | _ => .ok name

def pair (index : Nat) (item : Data) : Except SettingsError (Data × Data) :=
  match parts? item with
  | none => .error (.notAPair index)
  | some [name, value] => (checkName name).map fun name => (name, value)
  | some parts => .error (.pairLength index parts.length)

def ofPairs (index : Nat) (named : Named) : List Data → Except SettingsError Named
  | [] => .ok named
  | item :: rest => do
    let (name, value) ← pair index item
    ofPairs (index + 1) (put name value named) rest

def ofData : Data → Except SettingsError Named
  | .table entries => .ok (entries.map fun entry => (.text entry.1, entry.2))
  | data =>
    match parts? data with
    | some items => ofPairs 0 [] items
    | none => .error (.noEntries data.typeName)

def find? (name : String) (named : Named) : Option Data :=
  (named.find? fun entry => sameName entry.1 (.text name)).map Prod.snd

end LineCalc.Section
