import LineCalc.Binary64.Basic
import LineCalc.Calendar

/-!
Values of a data document: what a configuration file or a record of named fields holds.
-/
namespace LineCalc

/-- A table keeps its entries in the order they came in. -/
inductive Data where
  | null
  | bool (b : Bool)
  | int (n : Int)
  | float (x : Binary64)
  | text (s : String)
  | moment (m : Moment)
  | list (items : List Data)
  | table (entries : List (String × Data))
  deriving Repr, Inhabited

def Data.typeName : Data → String
  | null => "NoneType"
  | bool _ => "bool"
  | int _ => "int"
  | float _ => "float"
  | text _ => "str"
  | moment (.date _) => "datetime.date"
  | moment (.time _) => "datetime.time"
  | moment (.dateTime ..) => "datetime.datetime"
  | list _ => "list"
  | table _ => "dict"

abbrev Entries := List (String × Data)

/-- Gives a name its value. A name that is there already keeps its place. -/
def Entries.put (name : String) (value : Data) : Entries → Entries
  | [] => [(name, value)]
  | (other, old) :: rest =>
    if other = name then (name, value) :: rest else (other, old) :: Entries.put name value rest

end LineCalc
