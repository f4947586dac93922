/-
  CallSites.Yaml.Scalar

  Reading scalars. In quoted and plain scalars a line break between words counts as a space, and
  further line breaks stand for themselves; the lines of a block scalar are kept or joined.
-/
import CallSites.Text.Basic
import CallSites.Yaml.Place

namespace CallSites.Yaml

/-! ## Gaps between words -/

/-- What was read since the last word of a scalar. -/
inductive Gap where
  | none
  /-- Spaces and tabs, backwards. -/
  | blanks (text : List Char)
  /-- Line breaks: the first one, unless it was escaped, and the others backwards. -/
  | lines (first : Option Char) (others : List Char)

namespace Gap

/-- The gap with one more space or tab, which does not count after a line break. -/
def addBlank (c : Char) : Gap → Gap
  | .none => .blanks [c]
  | .blanks text => .blanks (c :: text)
  | .lines first others => .lines first others

/-- The gap with one more line break, which makes the spaces before it count no more. -/
def addBreak (c : Char) : Gap → Gap
  | .lines first others => .lines first (breakChar c :: others)
  | _ => .lines (some (breakChar c)) []

/-- Whether there is a gap. -/
def isOpen : Gap → Bool
  | .none => false
  | _ => true

/-- What the gap stands for, backwards. -/
def chars : Gap → List Char
  | .none => []
  | .blanks text => text
  | .lines first others =>
    match first with
    | Option.none => others
    | some '\n' => if others = [] then [' '] else others
    | some c => others ++ [c]

/-- The text read so far, backwards, with what the gap stands for. -/
def closeOnto (done : List Symbol) (gap : Gap) : List Symbol :=
  gap.chars.map .char ++ done

end Gap

/-! ## Quoted scalars -/

private def isHexDigit (c : Char) : Bool :=
  c.isDigit || ('a' ≤ c && c ≤ 'f') || ('A' ≤ c && c ≤ 'F')

private def hexNumber (digits : List Char) : Nat :=
  digits.foldl (fun n c => n * 16 + (if c.isDigit then c.toNat - 48 else c.toNat % 32 + 9)) 0

/-- The character that a letter after a backslash stands for. -/
private def escaped? : Char → Option Char
  | '0' => some '\x00'
  | 'a' => some '\x07'
  | 'b' => some '\x08'
  | 't' | '\t' => some '\t'
  | 'n' => some '\n'
  | 'v' => some '\x0b'
  | 'f' => some '\x0c'
  | 'r' => some '\r'
  | 'e' => some '\x1b'
  | ' ' => some ' '
  | '"' => some '"'
  | '\\' => some '\\'
  | '/' => some '/'
  | 'N' => some '\x85'
  | '_' => some '\xa0'
  | 'L' => some '\u2028'
  | 'P' => some '\u2029'
  | _ => none

/-- The number of digits after a letter that begins a numeric escape. -/
private def escapeWidth? : Char → Option Nat
  | 'x' => some 2
  | 'u' => some 4
  | 'U' => some 8
  | _ => none

/-- The code point with this number. -/
private def symbolOfCode (code : Nat) : Except Refusal Symbol :=
  if 0x7FFFFFFF < code then
    .error (.raised ⟨"OverflowError", "Python int too large to convert to C int"⟩)
  else match Symbol.ofNat? code with
    | some symbol => .ok symbol
    | none => .error (.raised (.valueError "chr() arg not in range(0x110000)"))

/-- The code point of an escape, from after the backslash on, with the length of the escape. -/
private def readEscape : List Char → Except Refusal (Symbol × Nat)
  | [] => .error .malformed
  | c :: rest =>
    match escaped? c, escapeWidth? c with
    | some found, _ => .ok (found, 1)
    | none, none => .error .malformed
    | none, some width =>
      let digits := (rest.take width).takeWhile isHexDigit
      if digits.length = width then
        (symbolOfCode (hexNumber digits)).map fun found => (found, width + 1)
      else .error .malformed

/-- Reads a quoted scalar from after its opening quote on. The first `skip` characters belong to
    an escape already read. -/
def readQuoted (double : Bool) (skip : Nat) (done : List Symbol) (gap : Gap) (mark : Mark) :
    List Char → Except Refusal (Text × Place)
  | [] => .error .malformed
  | c :: rest =>
    let next := mark.past c
    match skip with
    | skip + 1 => readQuoted double skip done gap next rest
    | 0 =>
      if isBreak c then
        if atSeparator rest then .error .malformed
        else readQuoted double 0 done (gap.addBreak c) next rest
      else if c == ' ' || c == '\t' then readQuoted double 0 done (gap.addBlank c) next rest
      else
        let done := gap.closeOnto done
        if c == '"' && double then .ok (.ofList done.reverse, ⟨rest, next⟩)
        else if c == '\'' && !double then
          if rest.head? = some '\'' then readQuoted double 1 (.char '\'' :: done) .none next rest
          else .ok (.ofList done.reverse, ⟨rest, next⟩)
        else if c == '\\' && double then
          if rest.head?.any isBreak then
            if atSeparator (rest.drop 1) then .error .malformed
            else readQuoted double 1 done (.lines none []) next rest
          else
            match readEscape rest with
            | .error refusal => .error refusal
            | .ok (found, length) => readQuoted double length (found :: done) .none next rest
        else readQuoted double 0 (.char c :: done) .none next rest

/-! ## Plain scalars -/

/-- The characters that structure flow collections. -/
private def isFlowMark (c : Char) : Bool :=
  c ∈ [',', '[', ']', '\x7b', '\x7d']

/-- Whether a character ends a plain scalar, `rest` being what follows it. -/
def endsPlain (inFlow : Bool) (c : Char) (rest : List Char) : Bool :=
  isGap c || (c == ':' && (endsWord rest || (inFlow && rest.head?.any isFlowMark))) ||
    (inFlow && (c == '?' || isFlowMark c))

/-- Reads a plain scalar, which `done` begins and whose last word ends at `last`. In a block, the
    lines after the first have at least `indent` columns before them. -/
def readPlain (inFlow : Bool) (indent : Nat) (done : List Char) (last : Place) (gap : Gap)
    (mark : Mark) : List Char → Text × Place
  | [] => (.ofString (.ofList done.reverse), last)
  | c :: rest =>
    let next := mark.past c
    if c == ' ' then readPlain inFlow indent done last (gap.addBlank c) next rest
    else if isBreak c && !atSeparator rest then
      readPlain inFlow indent done last (gap.addBreak c) next rest
    else if endsPlain inFlow c rest ||
        (gap.isOpen && (c == '#' || (!inFlow && mark.column < indent))) then
      (.ofString (.ofList done.reverse), last)
    else readPlain inFlow indent (c :: (gap.chars ++ done)) ⟨rest, next⟩ .none next rest

/-! ## Block scalars -/

/-- What happens to the line breaks at the end of a block scalar. -/
inductive Chomping where
  | strip
  | clip
  | keep
  deriving DecidableEq, Repr

private def chomping? : Char → Option Chomping
  | '+' => some .keep
  | '-' => some .strip
  | _ => none

/-- The indentation digit at the front, if there is one. -/
private def indentDigit? (text : List Char) : Option Nat :=
  text.head?.bind fun c => if c.isDigit then some (c.toNat - 48) else none

/-- The chomping and indentation after the indicator of a block scalar, in either order, with
    their length. -/
private def readHeader (text : List Char) : Chomping × Option Nat × Nat :=
  match text.head?.bind chomping? with
  | some chomping =>
    match indentDigit? (text.drop 1) with
    | some digit => (chomping, some digit, 2)
    | none => (chomping, none, 1)
  | none =>
    match indentDigit? text with
    | some digit =>
      match (text.drop 1).head?.bind chomping? with
      | some chomping => (chomping, some digit, 2)
      | none => (.clip, some digit, 1)
    | none => (.clip, none, 0)

/-- The blank lines before the first line with text, backwards, and the deepest column reached. -/
private def detectIndent (deepest : Nat) (breaks : List Char) (mark : Mark) :
    List Char → Nat × List Char × Place
  | [] => (deepest, breaks, ⟨[], mark⟩)
  | c :: rest =>
    let next := mark.past c
    if c == ' ' then detectIndent (max deepest next.column) breaks next rest
    else if isBreak c then detectIndent deepest (breakChar c :: breaks) next rest
    else (deepest, breaks, ⟨c :: rest, mark⟩)

/-- What was read of a block scalar. Texts are backwards. -/
private structure BlockText where
  done : List Char := []
  /-- The line break after the last line with text. -/
  lineBreak : Option Char := none
  /-- Whether that line did not begin with a blank. -/
  flush : Bool := false
  /-- The blank lines after it. -/
  breaks : List Char := []

/-- Begins a line with the character `c`. A line break between two lines that begin without
    blanks is folded. -/
private def BlockText.beginLine (folded : Bool) (block : BlockText) (c : Char) : BlockText :=
  let flush := !(c == ' ' || c == '\t')
  -- The line break itself: a space or nothing where it is folded, else as it is.
  let joint :=
    if folded && block.lineBreak == some '\n' && block.flush && flush then
      if block.breaks = [] then [' '] else []
    else block.lineBreak.toList
  { done := c :: (block.breaks ++ (joint ++ block.done)), flush }

/-- Reads the lines of a block scalar up to the first with less indentation. -/
private def readLines (folded : Bool) (indent : Nat) (inLine : Bool) (block : BlockText)
    (mark : Mark) : List Char → BlockText × Place
  | [] => (block, ⟨[], mark⟩)
  | c :: rest =>
    let next := mark.past c
    if inLine then
      if isBreak c then
        readLines folded indent false { block with lineBreak := some (breakChar c) } next rest
      else readLines folded indent true { block with done := c :: block.done } next rest
    else if mark.column < indent && c == ' ' then
      readLines folded indent false block next rest
    else if isBreak c then
      readLines folded indent false { block with breaks := breakChar c :: block.breaks } next rest
    else if mark.column = indent then
      readLines folded indent true (block.beginLine folded c) next rest
    else (block, ⟨c :: rest, mark⟩)

/-- Reads a block scalar from after its indicator on; `least` is the least indentation of its
    lines. -/
def readBlock (folded : Bool) (least : Nat) (place : Place) : Except Refusal (Text × Place) := do
  let (chomping, digit, length) := readHeader place.rest
  if digit = some 0 then throw .malformed
  let place := place.advance length
  unless place.rest.head?.all (fun c => c == ' ' || isBreak c) do throw .malformed
  let place ← place.endLine
  let (indent, breaks, place) := match digit with
    | some digit => (least + digit - 1, [], place)
    | none =>
      let (deepest, breaks, place) := detectIndent 0 [] place.mark place.rest
      (max least deepest, breaks, place)
  let (block, place) := readLines folded indent false { breaks } place.mark place.rest
  let ending := match chomping with
    | .strip => []
    | .clip => block.lineBreak.toList
    | .keep => block.breaks ++ block.lineBreak.toList
  return (.ofString (.ofList (ending ++ block.done).reverse), place)

end CallSites.Yaml
