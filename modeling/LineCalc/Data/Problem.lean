/-!
What is wrong with a value of a data document, and where.
-/
namespace LineCalc

inductive Complaint where
  | missing
  | unknownName
  | belowMinimum
  | notInt
  | intSyntax
  | intTooLong
  | intFromFraction
  | notFinite
  | notText
  | notBool
  | boolSyntax
  | notTable
  | extraField
  | badFieldName
  | refused (reason : String)
  deriving DecidableEq, Repr

def Complaint.code : Complaint → String
  | missing => "missing"
  | unknownName => "enum"
  | belowMinimum => "greater_than_equal"
  | notInt => "int_type"
  | intSyntax => "int_parsing"
  | intTooLong => "int_parsing_size"
  | intFromFraction => "int_from_float"
  | notFinite => "finite_number"
  | notText => "string_type"
  | notBool => "bool_type"
  | boolSyntax => "bool_parsing"
  | notTable => "model_type"
  | extraField => "extra_forbidden"
  | badFieldName => "invalid_key"
  | refused _ => "value_error"

/-- A complaint and the names that lead to the value, outermost first. -/
structure Problem where
  path : List String
  complaint : Complaint
  deriving DecidableEq, Repr

def Problem.under (name : String) (problem : Problem) : Problem :=
  { problem with path := name :: problem.path }

/-- A value, or all that is wrong with it. -/
abbrev Checked (α : Type) := Except (List Problem) α

def checkField (name : String) (result : Except Complaint α) : Checked α :=
  result.mapError fun complaint => [⟨[name], complaint⟩]

def Checked.problems : Checked α → List Problem
  | .ok _ => []
  | .error problems => problems

end LineCalc
