/-!
Case mappings of single letters as runs of letters with one shift.
-/
namespace LineCalc.Text

/-- Every `step`-th letter from `first` to `last` has its other case `shift` code points away. -/
structure CaseRun where
  first : Nat
  last : Nat
  step : Nat
  shift : Int

def CaseRun.covers (run : CaseRun) (c : Char) : Bool :=
  run.first ≤ c.toNat && c.toNat ≤ run.last && (c.toNat - run.first) % run.step == 0

def CaseRun.apply (run : CaseRun) (c : Char) : Char := Char.ofNat (c.toNat + run.shift).toNat

def shift? (runs : List CaseRun) (c : Char) : Option Char :=
  (runs.find? (·.covers c)).map (·.apply c)

end LineCalc.Text
