/-
  CallSites.Proofs.Regex.Language

  What an expression matches, by its syntax alone. An expression matches a stretch of bytes between
  those in front of it and those behind it. The surroundings matter to assertions only, and they
  are those of the whole text however deep an assertion stands.
-/
import CallSites.Regex.Basic
import CallSites.Text.Utf8
import Mathlib

namespace CallSites.Regex

/-! ## Sets of characters -/

/-- Whether a code point belongs to a set. -/
def CharSet.Has : CharSet → Nat → Prop
  | .none, _ => False
  | .range first last, code => first ≤ code ∧ code ≤ last
  | .table ranges, code => ranges.contains code
  | .union left right, code => left.Has code ∨ right.Has code
  | .complement set, code => ¬ set.Has code
  | .folded set, code => ∃ member ∈ Unicode.caseOrbit code, set.Has member

theorem CharSet.contains_iff {set : CharSet} {code : Nat} :
    set.contains code = true ↔ set.Has code := by
  induction set generalizing code with
  | none => simp [contains, Has]
  | range first last => simp [contains, Has]
  | table ranges => rfl
  | union left right ihl ihr => simp [contains, Has, ← ihl, ← ihr]
  | complement set ih => simp [contains, Has, ← ih]
  | folded set ih => simp [contains, Has, ← ih]

/-! ## Assertions -/

/-- The bytes of digits, ASCII letters and the underscore. -/
def IsWordByte (byte : UInt8) : Prop :=
  (0x30 ≤ byte.toNat ∧ byte.toNat ≤ 0x39) ∨ (0x41 ≤ byte.toNat ∧ byte.toNat ≤ 0x5A) ∨
    (0x61 ≤ byte.toNat ∧ byte.toNat ≤ 0x7A) ∨ byte.toNat = 0x5F

/-- Whether a word character comes last in front of a position and first behind it, or neither. -/
def JoinsAlike (front back : List UInt8) : Prop :=
  (∃ byte ∈ front.getLast?, IsWordByte byte) ↔ (∃ byte ∈ back.head?, IsWordByte byte)

/-- Whether an assertion holds between the bytes of a text. -/
def Assertion.HoldsBetween (front back : List UInt8) : Assertion → Prop
  | .textStart => front = []
  | .textEnd => back = []
  | .lineStart => front = [] ∨ front.getLast? = some 0xA
  | .lineEnd => back = [] ∨ back.head? = some 0xA
  | .wordBoundary => ¬ JoinsAlike front back
  | .notWordBoundary => JoinsAlike front back

/-! ## Expressions -/

/-- A condition on a stretch of bytes between those in front of it and those behind it. -/
abbrev StretchCondition := List UInt8 → List UInt8 → List UInt8 → Prop

/-- A stretch that falls into two, of which each keeps to its condition. -/
def Then (first second : StretchCondition) : StretchCondition := fun front text back =>
  ∃ left right, text = left ++ right ∧ first front left (right ++ back) ∧
    second (front ++ left) right back

/-- So many stretches in a row, each of which keeps to the condition. -/
def Copies (condition : StretchCondition) : Nat → StretchCondition
  | 0 => fun _ text _ => text = []
  | count + 1 => Then condition (Copies condition count)

/-- Whether an expression matches a stretch of bytes. -/
def Matches : Regex → StretchCondition
  | .empty => fun _ text _ => text = []
  | .chars set => fun _ text _ => ∃ c : Char, set.Has c.toNat ∧ text = String.utf8EncodeChar c
  | .anyByte => fun _ text _ => ∃ byte, text = [byte]
  | .assert assertion => fun front text back => text = [] ∧ assertion.HoldsBetween front back
  | .concat first second => Then first.Matches second.Matches
  | .either left right => fun front text back =>
    left.Matches front text back ∨ right.Matches front text back
  | .times body least most => fun front text back =>
    ∃ count, least ≤ count ∧ (∀ bound ∈ most, count ≤ bound) ∧
      Copies body.Matches count front text back

/-- The names that an expression matches as a whole: nothing is left in front or behind. -/
def language (regex : Regex) : Set String :=
  {name | regex.Matches [] (Text.Utf8.encode name.toList) []}

/-- A name matches one of two alternatives exactly if it matches one of them as a whole. -/
theorem mem_language_either {left right : Regex} {name : String} :
    name ∈ (Regex.either left right).language ↔ name ∈ left.language ∨ name ∈ right.language :=
  Iff.rfl

/-! ## The order of alternatives -/

/-- Two expressions that differ only in the order of alternatives, at any depth. -/
inductive Reordered : Regex → Regex → Prop
  | refl (regex : Regex) : Reordered regex regex
  | trans {a b c : Regex} : Reordered a b → Reordered b c → Reordered a c
  | swap (left right : Regex) : Reordered (.either left right) (.either right left)
  | rotate (a b c : Regex) :
    Reordered (.either (.either a b) c) (.either a (.either b c))
  | unrotate (a b c : Regex) :
    Reordered (.either a (.either b c)) (.either (.either a b) c)
  | concat {a b c d : Regex} : Reordered a b → Reordered c d →
    Reordered (.concat a c) (.concat b d)
  | either {a b c d : Regex} : Reordered a b → Reordered c d →
    Reordered (.either a c) (.either b d)
  | times {a b : Regex} (least : Nat) (most : Option Nat) : Reordered a b →
    Reordered (.times a least most) (.times b least most)

theorem Reordered.matches_eq {regex other : Regex} (h : Reordered regex other) :
    regex.Matches = other.Matches := by
  induction h with
  | refl regex => rfl
  | trans _ _ ih ih' => exact ih.trans ih'
  | swap left right =>
    funext front text back
    exact propext or_comm
  | rotate a b c =>
    funext front text back
    exact propext or_assoc
  | unrotate a b c =>
    funext front text back
    exact propext or_assoc.symm
  | concat _ _ ih ih' => simp only [Matches, ih, ih']
  | either _ _ ih ih' => simp only [Matches, ih, ih']
  | times least most _ ih => simp only [Matches, ih]

theorem Reordered.language_eq {regex other : Regex} (h : Reordered regex other) :
    regex.language = other.language := by
  rw [language, language, h.matches_eq]

end CallSites.Regex
