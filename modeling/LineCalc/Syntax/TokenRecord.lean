import LineCalc.Data.Conversion
import LineCalc.Syntax.Token

/-!
Tokens from named fields. Kind and position are required, and fields of other names are ignored.
-/
namespace LineCalc.Syntax.Token

def readKind : Data → Except Complaint Kind
  | .text s =>
    match Kind.ofName? s with
    | some kind => .ok kind
    | none => .error .unknownName
  | _ => .error .unknownName

def readPosition (data : Data) : Except Complaint Nat := do
  let n ← data.readInt
  if n < 0 then .error .belowMinimum else .ok n.toNat

def required (read : Data → Except Complaint α) : Option Data → Except Complaint α
  | some data => read data
  | none => .error .missing

def optional (read : Data → Except Complaint α) : Option Data → Except Complaint (Option α)
  | none | some .null => .ok none
  | some data => (read data).map some

def ofFields (fields : Entries) : Checked Token :=
  let kind := checkField "kind" (required readKind (fields.lookup "kind"))
  let position := checkField "position" (required readPosition (fields.lookup "position"))
  let text := checkField "text" (optional Data.readText (fields.lookup "text"))
  let value := checkField "value" (optional Data.readInt (fields.lookup "value"))
  match kind, position, text, value with
  | .ok kind, .ok position, .ok text, .ok value => .ok ⟨kind, position, text, value⟩
  | _, _, _, _ =>
    .error (kind.problems ++ position.problems ++ text.problems ++ value.problems)

end LineCalc.Syntax.Token
