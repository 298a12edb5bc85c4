/-! # Ranges of code points

A character class is a list of ranges, each given by its first and last code point, in ascending
order.
-/

namespace PinnedSessions.Text

/-- Whether `n` lies in one of the ranges; ascending order lets the search stop early. -/
def inRanges : List (Nat × Nat) → Nat → Bool
  | [], _ => false
  | (first, last) :: rest, n =>
    if n < first then false else if n ≤ last then true else inRanges rest n

end PinnedSessions.Text
