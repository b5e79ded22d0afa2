/-!
# Sets of code points

A property of characters is a set of code points, and such a set is a short list of ranges. Ranges
stand in ascending order, so membership is a binary search.
-/

namespace Scratchpad.Text

/-- A set of code points, as ranges with both ends included, in ascending order. -/
structure CodePoints where
  ranges : Array (Nat × Nat)

namespace CodePoints

/-- Whether one of the ranges with index in `[lo, hi)` holds `n`. -/
def search (ranges : Array (Nat × Nat)) (n lo hi : Nat) : Bool :=
  if lo < hi then
    let mid := (lo + hi) / 2
    match ranges[mid]? with
    | none => false
    | some (first, last) =>
      if n < first then search ranges n lo mid
      else if last < n then search ranges n (mid + 1) hi
      else true
  else false
termination_by hi - lo

/-- Whether the set holds `c`. -/
def contains (s : CodePoints) (c : Char) : Bool :=
  search s.ranges c.toNat 0 s.ranges.size

end CodePoints

end Scratchpad.Text
