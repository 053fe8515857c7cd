import LineCalc.Text.UpperCase

/-!
Levels of a log, the gravest first.
-/
namespace LineCalc

inductive Level where
  | critical
  | error
  | warning
  | info
  | debug
  deriving DecidableEq, Repr

namespace Level

def all : List Level := [critical, error, warning, info, debug]

def name : Level → String
  | critical => "CRITICAL"
  | error => "ERROR"
  | warning => "WARNING"
  | info => "INFO"
  | debug => "DEBUG"

def rank : Level → Nat
  | critical => 0
  | error => 1
  | warning => 2
  | info => 3
  | debug => 4

def shows (threshold level : Level) : Bool := level.rank ≤ threshold.rank

def ofName? (s : String) : Option Level := all.find? (·.name == s)

/-- Names are read without regard to case. -/
def ofText? (s : String) : Option Level := ofName? (Text.upperCase s)

theorem ofName?_name (level : Level) : ofName? level.name = some level := by
  cases level <;> decide

end Level
end LineCalc
