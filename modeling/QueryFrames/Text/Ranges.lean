/-!
Classes of characters given as ranges of code points. A class is a list of ranges in increasing order, and a
character belongs to it when its code point lies in one of them.
-/

namespace QueryFrames.Text

/-- First and last code point of each run of a class, in increasing order. -/
abbrev Ranges := List (Nat × Nat)

/-- Whether a character's code point lies in one of the ranges. -/
def Ranges.contains (ranges : Ranges) (c : Char) : Bool :=
  ranges.any fun range => range.1 ≤ c.toNat && c.toNat ≤ range.2

theorem Ranges.contains_iff {ranges : Ranges} {c : Char} :
    ranges.contains c = true ↔ ∃ range ∈ ranges, range.1 ≤ c.toNat ∧ c.toNat ≤ range.2 := by
  simp [Ranges.contains]

end QueryFrames.Text
