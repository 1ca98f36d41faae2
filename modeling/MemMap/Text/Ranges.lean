/-!
# MemMap.Text.Ranges

Membership in a table of inclusive code point ranges, the form in which the Unicode
properties of this library are kept.
-/

namespace MemMap.Text

/-- Whether `n` lies in one of the inclusive ranges of `ranges`. -/
def inRanges (ranges : List (Nat × Nat)) (n : Nat) : Bool :=
  ranges.any fun r => r.1 ≤ n && n ≤ r.2

end MemMap.Text
