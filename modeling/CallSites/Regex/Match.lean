/-
  CallSites.Regex.Match

  Matching a whole text. An expression maps the positions where it may begin to those where it may
  end, so every way to match is followed at once and no choice is ever taken back.
-/
import CallSites.Regex.Basic

namespace CallSites.Regex

/-! ## Positions -/

/-- A position in the bytes of a text. -/
structure Position where
  /-- The number of bytes before. -/
  offset : Nat
  /-- The byte before, if there is one. -/
  before : Option UInt8
  /-- What is left of a character that the position divides. -/
  pending : List UInt8
  /-- The whole characters that follow. -/
  ahead : List Char

namespace Position

/-- The position before a text. -/
def start (text : List Char) : Position :=
  ⟨0, none, [], text⟩

/-- The byte after the position, if there is one. -/
def after (position : Position) : Option UInt8 :=
  match position.pending, position.ahead with
  | byte :: _, _ => some byte
  | [], c :: _ => (String.utf8EncodeChar c).head?
  | [], [] => none

/-- Whether nothing follows. -/
def atEnd (position : Position) : Bool :=
  position.pending.isEmpty && position.ahead.isEmpty

/-- Past a whole character of the set. -/
def passChar? (set : CharSet) (position : Position) : Option Position :=
  match position.pending, position.ahead with
  | [], c :: ahead =>
    if set.contains c.toNat then
      let bytes := String.utf8EncodeChar c
      some ⟨position.offset + bytes.length, bytes.getLast?, [], ahead⟩
    else none
  | _, _ => none

/-- Past one byte. -/
def passByte? (position : Position) : Option Position :=
  match position.pending, position.ahead with
  | byte :: pending, ahead => some ⟨position.offset + 1, some byte, pending, ahead⟩
  | [], c :: ahead =>
    match String.utf8EncodeChar c with
    | [] => none
    | byte :: pending => some ⟨position.offset + 1, some byte, pending, ahead⟩
  | [], [] => none

end Position

/-! ## Assertions -/

/-- The bytes of digits, ASCII letters and the underscore. -/
def isWordByte (byte : UInt8) : Bool :=
  (Char.ofNat byte.toNat).isAlphanum || byte == 0x5F

/-- Whether the assertion holds at the position. -/
def Assertion.holds (position : Position) : Assertion → Bool
  | .textStart => position.before.isNone
  | .textEnd => position.after.isNone
  | .lineStart => position.before.all (· == 0xA)
  | .lineEnd => position.after.all (· == 0xA)
  | .wordBoundary => position.before.any isWordByte != position.after.any isWordByte
  | .notWordBoundary => position.before.any isWordByte == position.after.any isWordByte

/-! ## Sets of positions

Positions are listed from the last to the first. Matching moves on through the text, so what is
found later mostly stands at the front, where it is cheap to add. -/

/-- The union of two lists of positions. -/
def merge : List Position → List Position → List Position
  | [], right => right
  | left, [] => left
  | p :: left, q :: right =>
    if q.offset < p.offset then p :: merge left (q :: right)
    else if p.offset < q.offset then q :: merge (p :: left) right
    else p :: merge left right

/-- The positions of the first list that are not in the second. -/
def minus : List Position → List Position → List Position
  | [], _ => []
  | left, [] => left
  | p :: left, q :: right =>
    if q.offset < p.offset then p :: minus left (q :: right)
    else if p.offset < q.offset then minus (p :: left) right
    else minus left right

/-- All positions that up to `rounds` steps reach from `seen`; `fresh` are those of them whose
    step is still to be taken. -/
def spread (step : List Position → List Position) :
    Nat → List Position → List Position → List Position
  | 0, seen, _ => seen
  | rounds + 1, seen, fresh =>
    match minus (step fresh) seen with
    | [] => seen
    | found => spread step rounds (merge seen found) found

/-- The positions after exactly so many steps. -/
def steps (step : List Position → List Position) : Nat → List Position → List Position
  | _, [] => []
  | 0, positions => positions
  | count + 1, positions => steps step count (step positions)

/-! ## Matching -/

/-- The positions where the expression may end if it begins at one of `positions`. No text that
    is met has more than `size` bytes, so an open repetition is complete after `size` rounds that
    each find something new. -/
def ends (size : Nat) : Regex → List Position → List Position
  | .empty, positions => positions
  | .chars set, positions => positions.filterMap (Position.passChar? set)
  | .anyByte, positions => positions.filterMap Position.passByte?
  | .assert assertion, positions => positions.filter (assertion.holds ·)
  | .concat first second, positions => ends size second (ends size first positions)
  | .either left right, positions => merge (ends size left positions) (ends size right positions)
  | .times body least most, positions =>
    -- The required copies lead to `reached`, the optional ones spread out from there.
    let reached := steps (ends size body) least positions
    let rounds := match most with
      | none => size + 1
      | some most => most - least
    spread (ends size body) rounds reached reached

/-- Whether the expression matches the whole text. -/
def matchesText (regex : Regex) (text : List Char) : Bool :=
  let size := (text.flatMap String.utf8EncodeChar).length
  (ends size regex [Position.start text]).any Position.atEnd

/-- Whether the expression matches the whole text. -/
def isMatch (regex : Regex) (text : String) : Bool :=
  regex.matchesText text.toList

end CallSites.Regex
