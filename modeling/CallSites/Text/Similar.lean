/-
  CallSites.Text.Similar

  How much two words have in common. The longest run of characters that both contain is matched
  first, then what is left on either side of it.
-/

namespace CallSites.Text

/-- The length of the common beginning of two texts. -/
private def commonLength : List Char → List Char → Nat
  | a :: as, b :: bs => if a = b then commonLength as bs + 1 else 0
  | _, _ => 0

/-- A run that two texts have in common: where it begins in each, and its length. -/
structure CommonRun where
  left : Nat
  right : Nat
  length : Nat
  deriving DecidableEq, Repr

/-- The longest run in common. Of several, the first in the left text counts, and of those the
    first in the right text. -/
private def longestRun (left right : List Char) : CommonRun :=
  let runs := (List.range left.length).flatMap fun i =>
    (List.range right.length).map fun j =>
      CommonRun.mk i j (commonLength (left.drop i) (right.drop j))
  runs.foldl (fun best run => if best.length < run.length then run else best) ⟨0, 0, 0⟩

/-- The number of characters that are matched between two texts. -/
def matched (left right : List Char) : Nat :=
  match longestRun left right with
  | ⟨i, j, length⟩ =>
    if _h : 0 < length ∧ i + length ≤ left.length then
      length + matched (left.take i) (right.take j) +
        matched (left.drop (i + length)) (right.drop (j + length))
    else 0
termination_by left.length
decreasing_by all_goals simp only [List.length_take, List.length_drop]; omega

/-- Whether at least six tenths of two words are matched. -/
def areSimilar (left right : String) : Bool :=
  let left := left.toList
  let right := right.toList
  3 * (left.length + right.length) ≤ 10 * matched left right

end CallSites.Text
