/-
  CallSites.Regex.Basic

  Regular expressions over text read as UTF-8. A set of characters consumes one whole character,
  `anyByte` consumes one byte, and an assertion consumes nothing and looks at the bytes around it.
-/
import CallSites.Regex.CharSet

namespace CallSites

/-- What must hold at a position between two bytes. -/
inductive Regex.Assertion where
  | textStart
  | textEnd
  /-- The start of the text, or a position after a line feed. -/
  | lineStart
  /-- The end of the text, or a position before a line feed. -/
  | lineEnd
  /-- A position between an ASCII word character and something else. -/
  | wordBoundary
  | notWordBoundary
  deriving DecidableEq, Repr

/-- A regular expression. Greediness and captured groups have no part in whether a whole text
    matches, so neither is recorded. -/
inductive Regex where
  /-- The empty text. -/
  | empty
  | chars (set : Regex.CharSet)
  | anyByte
  | assert (assertion : Regex.Assertion)
  | concat (first second : Regex)
  | either (left right : Regex)
  /-- At least `least` repetitions, and at most `most` if there is a bound. -/
  | times (body : Regex) (least : Nat) (most : Option Nat)

namespace Regex

/-- How many copies of one character a counted repetition needs at most when it is written out:
    nested counts multiply, and an open count stands for its lower bound. -/
def copies : Regex → Nat
  | .concat first second => max first.copies second.copies
  | .either left right => max left.copies right.copies
  | .times body least most => max 1 (most.getD least) * body.copies
  | _ => 1

/-- The largest count in a pattern, and the largest product of nested counts. -/
def maxRepeat : Nat := 1000

end Regex

end CallSites
