/-
  CallSites.Text.RangeTable

  Sets of code points given by a sorted array of disjoint ranges, ends included. Membership is a
  binary search.
-/

namespace CallSites.Text

/-- A set of code points, as ranges in increasing order with both ends included. -/
structure RangeTable where
  ranges : Array (Nat × Nat)

namespace RangeTable

/-- Looks for a range around `code` between the indices `low` (included) and `high` (excluded). -/
private def search (ranges : Array (Nat × Nat)) (code low high : Nat) : Bool :=
  if low < high then
    let middle := (low + high) / 2
    match ranges[middle]? with
    | none => false
    | some (first, last) =>
      if code < first then search ranges code low middle
      else if last < code then search ranges code (middle + 1) high
      else true
  else false
termination_by high - low

/-- Whether the code point lies in one of the ranges. -/
def contains (table : RangeTable) (code : Nat) : Bool :=
  search table.ranges code 0 table.ranges.size

end RangeTable

end CallSites.Text
