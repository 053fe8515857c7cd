/-!
Sets of characters given as closed intervals of code points.
-/
namespace LineCalc.Text

/-- A set of characters as closed intervals of code points, least first. -/
structure CharRanges where
  spans : List (Nat × Nat)

def CharRanges.has (ranges : CharRanges) (c : Char) : Bool :=
  ranges.spans.any fun span => span.1 ≤ c.toNat && c.toNat ≤ span.2

instance : Membership Char CharRanges := ⟨fun ranges c => ranges.has c = true⟩

instance (c : Char) (ranges : CharRanges) : Decidable (c ∈ ranges) :=
  inferInstanceAs (Decidable (ranges.has c = true))

theorem CharRanges.mem_iff {ranges : CharRanges} {c : Char} :
    c ∈ ranges ↔ ∃ span ∈ ranges.spans, span.1 ≤ c.toNat ∧ c.toNat ≤ span.2 := by
  show ranges.has c = true ↔ _
  simp [CharRanges.has]

end LineCalc.Text
