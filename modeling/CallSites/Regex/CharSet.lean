/-
  CallSites.Regex.CharSet

  Sets of code points as a regular expression describes them: ranges and tables under union,
  complement and case folding. A set is never spelled out, membership is computed.
-/
import CallSites.Text.RangeTable
import CallSites.Unicode.CaseOrbit

namespace CallSites.Regex

open CallSites.Text (RangeTable)
open CallSites.Unicode (caseOrbit)

/-- A set of code points. -/
inductive CharSet where
  | none
  /-- The code points from `first` to `last`, both included. -/
  | range (first last : Nat)
  | table (ranges : RangeTable)
  | union (left right : CharSet)
  | complement (set : CharSet)
  /-- The set together with all letters that differ from a member only in case. -/
  | folded (set : CharSet)

namespace CharSet

/-- Whether a code point belongs to the set. -/
def contains : CharSet → Nat → Bool
  | .none, _ => false
  | .range first last, code => decide (first ≤ code) && decide (code ≤ last)
  | .table ranges, code => ranges.contains code
  | .union left right, code => left.contains code || right.contains code
  | .complement set, code => !set.contains code
  | .folded set, code => (caseOrbit code).any fun member => set.contains member

/-- The set of one code point. -/
def single (code : Nat) : CharSet :=
  .range code code

/-- The union of several sets. -/
def unions (sets : List CharSet) : CharSet :=
  sets.foldr .union .none

/-- Every code point. -/
def all : CharSet :=
  .complement .none

/-- The union of several ranges of ASCII, each given by its first and last character. -/
def ofRanges (ranges : List (Char × Char)) : CharSet :=
  unions (ranges.map fun ends => .range ends.1.toNat ends.2.toNat)

@[simp] theorem contains_single {member code : Nat} :
    (single member).contains code = true ↔ code = member := by
  simp only [single, contains, Bool.and_eq_true, decide_eq_true_eq]
  omega

@[simp] theorem contains_unions {sets : List CharSet} {code : Nat} :
    (unions sets).contains code = sets.any fun set => set.contains code := by
  induction sets with
  | nil => rfl
  | cons set sets ih => exact congrArg (set.contains code || ·) ih

@[simp] theorem contains_all (code : Nat) : all.contains code = true := rfl

end CharSet

end CallSites.Regex
