/-
  CallSites.Yaml.Place

  Places in a YAML text: what follows, and the line and column reached. The text holds no carriage
  return; its line breaks are the line feed, the next-line control and the two Unicode separators.
-/
import CallSites.Exception

namespace CallSites.Yaml

/-- Why a text is no document. -/
inductive Refusal where
  /-- The text breaks the rules of the format, or asks for what a document cannot hold. -/
  | malformed
  /-- A scalar looks like a value that cannot be made. -/
  | raised (exception : Exception)
  deriving DecidableEq, Repr

/-! ## Characters -/

/-- The characters that end a line. -/
def isBreak (c : Char) : Bool :=
  c == '\n' || c == '\x85' || c == '\u2028' || c == '\u2029'

/-- The characters between words: spaces, tabs and line breaks. -/
def isGap (c : Char) : Bool :=
  c == ' ' || c == '\t' || isBreak c

/-- A line break as it counts in the text of a scalar. -/
def breakChar (c : Char) : Char :=
  if c == '\u2028' || c == '\u2029' then c else '\n'

/-- Whether a word ends here: at the end of the text, or before a gap. -/
def endsWord : List Char → Bool
  | [] => true
  | c :: _ => isGap c

/-- Whether a line that marks the start or the end of a document begins here. -/
def atSeparator : List Char → Bool
  | '-' :: '-' :: '-' :: rest => endsWord rest
  | '.' :: '.' :: '.' :: rest => endsWord rest
  | _ => false

/-- The characters of names: letters and digits of ASCII, hyphen and underscore. -/
def isWordChar (c : Char) : Bool :=
  c.isAlphanum || c == '-' || c == '_'

/-! ## Places -/

/-- A count of the characters before a place, and its line and column. -/
structure Mark where
  index : Nat := 0
  line : Nat := 0
  column : Nat := 0
  deriving DecidableEq, Repr

/-- The mark after one more character. A byte order mark has no width. -/
def Mark.past (mark : Mark) (c : Char) : Mark :=
  if isBreak c then ⟨mark.index + 1, mark.line + 1, 0⟩
  else if c == '\uFEFF' then ⟨mark.index + 1, mark.line, mark.column⟩
  else ⟨mark.index + 1, mark.line, mark.column + 1⟩

/-- What follows a mark. -/
structure Place where
  rest : List Char
  mark : Mark := {}

/-- The place after a run of characters. -/
def skipWhile (p : Char → Bool) (mark : Mark) : List Char → Place
  | [] => ⟨[], mark⟩
  | c :: rest => if p c then skipWhile p (mark.past c) rest else ⟨c :: rest, mark⟩

namespace Place

/-- The place some characters further on. -/
def advance (place : Place) : Nat → Place
  | 0 => place
  | count + 1 =>
    match place.rest with
    | [] => place
    | c :: rest => advance ⟨rest, place.mark.past c⟩ count

/-- The place after a run of characters. -/
def skip (place : Place) (p : Char → Bool) : Place :=
  skipWhile p place.mark place.rest

/-- The place after the rest of a line that holds only spaces and a comment. -/
def endLine (place : Place) : Except Refusal Place :=
  let place := place.skip (· == ' ')
  let place := if place.rest.head? = some '#' then place.skip (!isBreak ·) else place
  match place.rest with
  | [] => .ok place
  | c :: rest => if isBreak c then .ok ⟨rest, place.mark.past c⟩ else .error .malformed

end Place

end CallSites.Yaml
