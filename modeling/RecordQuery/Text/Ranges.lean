/-!
# Ranges of characters

A property of characters is kept as a list of ranges of code points in ascending order, ends
included.
-/

namespace RecordQuery.Text

/-- Whether one of the ranges holds a code point. -/
def inRanges (n : Nat) : List (Nat × Nat) → Bool
  | [] => false
  | (first, last) :: rest => if n < first then false else n ≤ last || inRanges n rest

/-- The number of code points that ranges hold. -/
def rangeCount (ranges : List (Nat × Nat)) : Nat :=
  ranges.foldl (fun n (first, last) => n + (last - first + 1)) 0

end RecordQuery.Text
