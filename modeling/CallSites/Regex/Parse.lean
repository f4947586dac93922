/-
  CallSites.Regex.Parse

  From the pieces of a pattern to its expression. Groups that are open keep what was read of them
  and the flags to restore at their end.
-/
import CallSites.Regex.Piece

namespace CallSites.Regex

/-! ## Flags -/

/-- The flags that decide what pieces mean. -/
structure Flags where
  caseless : Bool := false
  lines : Bool := false
  dotAll : Bool := false
  deriving DecidableEq, Repr

/-- The flags after one change. -/
def Flags.change (flags : Flags) : FlagChange → Flags
  | (.caseless, on) => { flags with caseless := on }
  | (.lines, on) => { flags with lines := on }
  | (.dotAll, on) => { flags with dotAll := on }
  | (.lazy, _) => flags

/-- The expression of a piece that stands for one. -/
def Piece.toRegex? (flags : Flags) : Piece → Option Regex
  | .literal code =>
    some (.chars (if flags.caseless then .folded (.single code) else .single code))
  | .set bracket => some (.chars (bracket.toCharSet flags.caseless))
  | .anyChar => some (.chars (if flags.dotAll then .all else .complement (.single 0xA)))
  | .anyByte => some .anyByte
  | .lineStart => some (.assert (if flags.lines then .lineStart else .textStart))
  | .lineEnd => some (.assert (if flags.lines then .lineEnd else .textEnd))
  | .assertion condition => some (.assert condition)
  | _ => none

/-! ## Open groups -/

/-- What was read of a group: the alternatives that are complete and the parts of the last one,
    both backwards. -/
structure Level where
  alternatives : List Regex := []
  parts : List Regex := []

/-- The concatenation of the parts of the last alternative. -/
def Level.lastAlternative (level : Level) : Regex :=
  level.parts.foldl (fun rest part => .concat part rest) .empty

/-- The expression of the whole group. -/
def Level.toRegex (level : Level) : Regex :=
  level.alternatives.foldl (fun right left => .either left right) level.lastAlternative

/-- The group with one more part. -/
def Level.push (level : Level) (part : Regex) : Level :=
  { level with parts := part :: level.parts }

/-- The state of reading: the innermost group, the groups around it with the flags that hold
    again after them, and the text of a repetition that was the last piece. -/
structure Reading where
  flags : Flags := {}
  level : Level := {}
  outer : List (Flags × Level) := []
  lastOperator : List Char := []

/-- Adds a repetition of the last part. -/
def Reading.addTimes (reading : Reading) (least : Nat) (most : Option Nat)
    (operator : List Char) : Except Error Reading :=
  if reading.lastOperator ≠ [] then .error (.repeatOperator (reading.lastOperator ++ operator))
  else if maxRepeat < least ∨ most.any (fun most => most < least || maxRepeat < most) then
    .error (.repeatSize operator)
  else match reading.level.parts with
    | [] => .error (.missingOperand operator)
    | body :: parts =>
      let part := Regex.times body least most
      -- With counts below two the product of nested counts stays what it was.
      if (2 ≤ least ∨ most.any (2 ≤ ·)) ∧ maxRepeat < part.copies then
        .error (.repeatSize operator)
      else .ok { reading with
        level := { reading.level with parts := part :: parts }, lastOperator := operator }

/-- Reads one piece of the pattern. -/
def Reading.add (pattern : List Char) (reading : Reading) (piece : Piece) :
    Except Error Reading :=
  let fresh := { reading with lastOperator := [] }
  match piece with
  | .times least most operator => reading.addTimes least most operator
  | .openGroup changes =>
    .ok { fresh with
      flags := changes.foldl Flags.change reading.flags
      level := {}
      outer := (reading.flags, reading.level) :: reading.outer }
  | .setFlags changes => .ok { fresh with flags := changes.foldl Flags.change reading.flags }
  | .bar =>
    .ok { fresh with level := ⟨reading.level.lastAlternative :: reading.level.alternatives, []⟩ }
  | .closeGroup =>
    match reading.outer with
    | [] => .error (.unexpectedParen pattern)
    | (flags, level) :: outer =>
      .ok { fresh with flags, level := level.push reading.level.toRegex, outer }
  | .quote => .ok fresh
  | piece =>
    match piece.toRegex? reading.flags with
    | some part => .ok { fresh with level := reading.level.push part }
    | none => .ok fresh

/-- The expression of the whole pattern, if no group is open. -/
def Reading.finish (pattern : List Char) (reading : Reading) : Except Error Regex :=
  match reading.outer with
  | [] => .ok reading.level.toRegex
  | _ :: _ => .error (.missingParen pattern)

/-- The expression that a pattern denotes, or the first thing that is wrong with the pattern. -/
def parse (pattern : String) : Except Error Regex :=
  let text := pattern.toList
  let (found, error) := pieces text
  match found.foldlM (Reading.add text) {}, error with
  | .error error, _ => .error error
  | .ok _, some error => .error error
  | .ok reading, none => reading.finish text

end CallSites.Regex
