/-!
Signed words of 32 bits as integers: wrapping and truncating division.
-/
namespace LineCalc.Word

def lowest : Int := -2147483648
def highest : Int := 2147483647

def InRange (n : Int) : Prop := lowest ≤ n ∧ n ≤ highest

instance (n : Int) : Decidable (InRange n) := inferInstanceAs (Decidable (_ ∧ _))

/-- The one integer of the range that differs from `n` by a multiple of two to the 32nd. -/
def wrap (n : Int) : Int := n.bmod 4294967296

def divide? (left right : Int) : Option Int :=
  if right = 0 then none else some (left.tdiv right)

theorem wrap_inRange (n : Int) : InRange (wrap n) := by
  unfold InRange wrap lowest highest
  have low := Int.le_bmod (x := n) (m := 4294967296) (by decide)
  have high := Int.bmod_lt (x := n) (m := 4294967296) (by decide)
  constructor <;> omega

theorem wrap_eq_self {n : Int} (h : InRange n) : wrap n = n := by
  unfold InRange lowest highest at h
  unfold wrap
  rw [Int.bmod_def]
  split <;> omega

end LineCalc.Word
