/-
  CallSites.Regex.Piece

  The pieces that a pattern falls into, from left to right: characters, classes, operators and
  group openings. What a piece means may still depend on the flags in force where it stands.

  Every reader below looks at the text from its place on and says how many characters belong to
  the piece, so the pattern is read by one structural recursion.
-/
import CallSites.Regex.Basic
import CallSites.Regex.Error
import CallSites.Regex.NamedSet

namespace CallSites.Regex

/-! ## Pieces -/

/-- A part of a class: a set or its complement. Case folding comes before the complement. -/
structure ClassItem where
  set : CharSet
  negated : Bool

/-- A class: the union of its items, or the complement of the union. -/
structure ClassSet where
  items : List ClassItem
  negated : Bool

/-- The characters of an item. -/
def ClassItem.toCharSet (caseless : Bool) (item : ClassItem) : CharSet :=
  let base := if caseless then .folded item.set else item.set
  if item.negated then .complement base else base

/-- The characters of a class. -/
def ClassSet.toCharSet (caseless : Bool) (set : ClassSet) : CharSet :=
  let base := CharSet.unions (set.items.map (ClassItem.toCharSet caseless))
  if set.negated then .complement base else base

/-- What the letters after `(?` switch. -/
inductive Flag where
  /-- `i`: letters match without regard to case. -/
  | caseless
  /-- `m`: `^` and `$` hold at every line. -/
  | lines
  /-- `s`: the dot matches a line feed too. -/
  | dotAll
  /-- `U`: repetitions prefer few copies. -/
  | lazy
  deriving DecidableEq, Repr

/-- A flag and its new value. -/
abbrev FlagChange := Flag × Bool

/-- A piece of a pattern. -/
inductive Piece where
  | literal (code : Nat)
  | set (bracket : ClassSet)
  /-- The dot. -/
  | anyChar
  | anyByte
  /-- `^` -/
  | lineStart
  /-- `$` -/
  | lineEnd
  | assertion (condition : Assertion)
  /-- A group opens; the changes hold inside it. -/
  | openGroup (changes : List FlagChange)
  /-- The changes hold up to the end of the group. -/
  | setFlags (changes : List FlagChange)
  | bar
  | closeGroup
  /-- A repetition, with its text. -/
  | times (least : Nat) (most : Option Nat) (operator : List Char)
  /-- Quoted text begins. It matches nothing by itself but separates repetitions. -/
  | quote

/-! ## Scanning for a delimiter -/

/-- The text before the first `stop`, if there is one. -/
def before? (stop : Char) : List Char → Option (List Char)
  | [] => none
  | c :: rest => if c = stop then some [] else (before? stop rest).map (c :: ·)

/-- The text before the first `:]`, if there is one. -/
def beforeClassEnd? : List Char → Option (List Char)
  | [] => none
  | c :: rest =>
    if c = ':' ∧ rest.head? = some ']' then some []
    else (beforeClassEnd? rest).map (c :: ·)

/-! ## Escapes -/

def isOctal (c : Char) : Bool := '0' ≤ c && c ≤ '7'

def isHex (c : Char) : Bool :=
  c.isDigit || ('a' ≤ c && c ≤ 'f') || ('A' ≤ c && c ≤ 'F')

def hexValue (c : Char) : Nat :=
  if c.isDigit then c.toNat - 48 else c.toNat % 32 + 9

def numeral (base : Nat) (value : Char → Nat) (text : List Char) : Nat :=
  text.foldl (fun n c => n * base + value c) 0

def octalNumeral : List Char → Nat := numeral 8 fun c => c.toNat - 48

def hexNumeral : List Char → Nat := numeral 16 hexValue

def decimalNumeral : List Char → Nat := numeral 10 fun c => c.toNat - 48

/-- The largest code point. -/
def maxCodePoint : Nat := 0x10FFFF

/-- The hexadecimal digits in `text` up to the one that leads past the largest code point. -/
def overflowAt? (value : Nat) : List Char → Option (List Char)
  | [] => none
  | c :: rest =>
    let next := value * 16 + hexValue c
    if maxCodePoint < next then some [c] else (overflowAt? next rest).map (c :: ·)

/-- A code point in hexadecimal, from after the `x` on. -/
def readHex : List Char → Except Error (Nat × Nat)
  | [] => .error (.escape ['\\', 'x'])
  | ['\x7b'] => .error .missingCodePoint
  | '\x7b' :: rest =>
    let failed text := Except.error (Error.escape ('\\' :: 'x' :: '\x7b' :: text))
    let digits := rest.takeWhile isHex
    match overflowAt? 0 digits, rest.drop digits.length with
    | some text, _ => failed text
    | none, [] => failed digits
    | none, c :: _ =>
      if c = '\x7d' ∧ digits ≠ [] then .ok (hexNumeral digits, digits.length + 2)
      else failed (digits ++ [c])
  | [first] => .error (.escape ['\\', 'x', first])
  | first :: second :: _ =>
    if isHex first && isHex second then .ok (hexNumeral [first, second], 2)
    else .error (.escape ['\\', 'x', first, second])

/-- One escaped code point, from after the backslash on. A single nonzero digit is no code point,
    and a letter that has no meaning is refused. -/
def readEscape : List Char → Except Error (Nat × Nat)
  | [] => .error .trailingBackslash
  | 'x' :: rest => (readHex rest).map fun (code, used) => (code, used + 1)
  | 'a' :: _ => .ok (0x7, 1)
  | 't' :: _ => .ok (0x9, 1)
  | 'n' :: _ => .ok (0xA, 1)
  | 'v' :: _ => .ok (0xB, 1)
  | 'f' :: _ => .ok (0xC, 1)
  | 'r' :: _ => .ok (0xD, 1)
  | c :: rest =>
    if isOctal c then
      let digits := c :: (rest.takeWhile isOctal).take 2
      if c ≠ '0' ∧ digits.length = 1 then .error (.escape ['\\', c])
      else .ok (octalNumeral digits, digits.length)
    else if c.toNat < 0x80 && !c.isAlphanum then .ok (c.toNat, 1)
    else .error (.escape ['\\', c])

/-- The Unicode class with a name, which stands in `text` behind `\p` or `\P`; `letter` is that `p`
    or `P`. A `^` before the name takes the complement once more. -/
def readUnicodeName (letter : Char) (name text : List Char) : Except Error (ClassItem × Nat) :=
  let (negated, name) := match name with
    | '^' :: name => (letter == 'p', name)
    | _ => (letter == 'P', name)
  match unicodeSet? (String.ofList name) with
  | some set => .ok (⟨set, negated⟩, text.length)
  | none => .error (.classRange ('\\' :: letter :: text))

/-- A Unicode class, from after its letter on. The name is one character or stands between
    braces. -/
def readUnicodeSet (letter : Char) (rest : List Char) : Except Error (ClassItem × Nat) :=
  match rest with
  | [] => .error (.classRange ['\\', letter])
  | '\x7b' :: rest =>
    match before? '\x7d' rest with
    | none => .error (.classRange ('\\' :: letter :: '\x7b' :: rest))
    | some name => readUnicodeName letter name ('\x7b' :: name ++ ['\x7d'])
  | c :: _ => readUnicodeName letter [c] [c]

/-- The class that a letter names after a backslash. -/
def letterItem? (c : Char) : Option ClassItem :=
  match letterSet? c with
  | some set => some ⟨set, false⟩
  | none => if c.isUpper then (letterSet? c.toLower).map (⟨·, true⟩) else none

/-! ## Classes in brackets -/

/-- One end of a range inside a class; `whole` is the text from the opening bracket on. -/
def readClassChar (whole : List Char) : List Char → Except Error (Nat × Nat)
  | [] => .error (.missingBracket whole)
  | '\\' :: rest => (readEscape rest).map fun (code, used) => (code, used + 1)
  | c :: _ => .ok (c.toNat, 1)

/-- A range or a single character. A hyphen before the closing bracket makes no range. -/
def readClassRange (whole text : List Char) : Except Error (ClassItem × Nat) := do
  let (first, used) ← readClassChar whole text
  match text.drop used with
  | '-' :: c :: rest =>
    if c = ']' then return (⟨.single first, false⟩, used)
    else
      let (last, usedLast) ← readClassChar whole (c :: rest)
      let used := used + 1 + usedLast
      if last < first then throw (.classRange (text.take used))
      else return (⟨.range first last, false⟩, used)
  | _ => return (⟨.single first, false⟩, used)

/-- An ASCII class, from after `[:` on, if a `:]` follows somewhere. -/
def readAsciiSet? (text : List Char) : Option (Except Error (ClassItem × Nat)) :=
  (beforeClassEnd? text).map fun inner =>
    let (negated, name) := match inner with
      | '^' :: name => (true, name)
      | name => (false, name)
    match asciiSet? (String.ofList name) with
    | some set => .ok (⟨set, negated⟩, inner.length + 4)
    | none => .error (.classRange ('[' :: ':' :: inner ++ [':', ']']))

/-- One item of a class. -/
def readClassItem (whole text : List Char) : Except Error (ClassItem × Nat) :=
  match text with
  | '[' :: ':' :: rest => (readAsciiSet? rest).getD (readClassRange whole text)
  | '\\' :: c :: rest =>
    if (c = 'p' ∨ c = 'P') ∧ rest ≠ [] then
      (readUnicodeSet c rest).map fun (item, used) => (item, used + 2)
    else match letterItem? c with
      | some item => .ok (item, 2)
      | none => readClassRange whole text
  | _ => readClassRange whole text

/-- The items of a class up to its closing bracket, which may not come first. The first `skip`
    characters belong to an item already read. -/
def readClassItems (whole : List Char) (skip : Nat) (first : Bool) :
    List Char → Except Error (List ClassItem × Nat)
  | [] => .error (.missingBracket whole)
  | c :: rest =>
    match skip with
    | skip + 1 => (readClassItems whole skip false rest).map fun (items, used) => (items, used + 1)
    | 0 =>
      if c = ']' ∧ first = false then .ok ([], 1)
      else match readClassItem whole (c :: rest) with
        | .error error => .error error
        | .ok (item, used) =>
          (readClassItems whole (used - 1) false rest).map fun (items, used) =>
            (item :: items, used + 1)

/-- A class, from after its opening bracket on. -/
def readClass (rest : List Char) : Except Error (ClassSet × Nat) :=
  let whole := '[' :: rest
  match rest with
  | '^' :: rest =>
    (readClassItems whole 0 true rest).map fun (items, used) => (⟨items, true⟩, used + 1)
  | _ => (readClassItems whole 0 true rest).map fun (items, used) => (⟨items, false⟩, used)

/-! ## Groups -/

/-- The flags after `(?` up to the colon or parenthesis that ends them; `seen` is the text since
    the parenthesis, backwards. A hyphen switches the flags after it off, needs one, and comes
    once. -/
def readFlags (seen : List Char) (off pending : Bool) (changes : List FlagChange) :
    List Char → Except Error (Piece × Nat)
  | [] => .error (.groupOperator seen.reverse)
  | c :: rest =>
    let seen := c :: seen
    let failed := Except.error (Error.groupOperator seen.reverse)
    let change flag := readFlags seen off false ((flag, !off) :: changes) rest
    match c with
    | 'i' => change .caseless
    | 'm' => change .lines
    | 's' => change .dotAll
    | 'U' => change .lazy
    | '-' => if off then failed else readFlags seen true true changes rest
    | ':' => if pending then failed else .ok (.openGroup changes.reverse, seen.length - 1)
    | ')' => if pending then failed else .ok (.setFlags changes.reverse, seen.length - 1)
    | _ => failed

/-- The name of a group, with `opening` the text before it. -/
def readGroupName (opening rest : List Char) : Except Error (Piece × Nat) :=
  match before? '>' rest with
  | none => .error (.groupName (opening ++ rest))
  | some name =>
    let text := opening ++ name ++ ['>']
    if name ≠ [] ∧ name.all (fun c => groupNameSet.contains c.toNat) then
      .ok (.openGroup [], text.length - 1)
    else .error (.groupName text)

/-- A group that begins with `(?`, from after the parenthesis on. Looking around is refused. -/
def readGroup (rest : List Char) : Except Error (Piece × Nat) :=
  match rest with
  | '?' :: '=' :: _ :: _ => .error (.groupOperator ['(', '?', '='])
  | '?' :: '!' :: _ :: _ => .error (.groupOperator ['(', '?', '!'])
  | '?' :: '<' :: '=' :: _ :: _ => .error (.groupOperator ['(', '?', '<', '='])
  | '?' :: '<' :: '!' :: _ :: _ => .error (.groupOperator ['(', '?', '<', '!'])
  | '?' :: 'P' :: '<' :: c :: rest => readGroupName ['(', '?', 'P', '<'] (c :: rest)
  | '?' :: '<' :: c :: rest => readGroupName ['(', '?', '<'] (c :: rest)
  | '?' :: rest => readFlags ['?', '('] false false [] rest
  | _ => .ok (.openGroup [], 0)

/-! ## Repetitions -/

/-- A number without needless zeros and below a thousand million, with its length. -/
def readNumber? (text : List Char) : Option (Nat × Nat) :=
  let digits := text.takeWhile Char.isDigit
  let value := decimalNumeral digits
  if digits = [] ∨ (digits.head? = some '0' ∧ 1 < digits.length) ∨ 1000000000 ≤ value then none
  else some (value, digits.length)

/-- A counted repetition, from after its opening brace on. Any other text makes the brace an
    ordinary character. -/
def readCounts? (text : List Char) : Option (Nat × Option Nat × Nat) :=
  match readNumber? text with
  | none => none
  | some (least, used) =>
    match text.drop used with
    | '\x7d' :: _ => some (least, some least, used + 1)
    | ',' :: '\x7d' :: _ => some (least, none, used + 2)
    | ',' :: rest =>
      match readNumber? rest with
      | none => none
      | some (most, usedMost) =>
        if rest[usedMost]? = some '\x7d' then some (least, some most, used + usedMost + 2)
        else none
    | _ => none

/-- A repetition with the text of its operator, `rest` being what follows. A question mark after
    it asks for few copies and belongs to the operator. -/
def timesPiece (least : Nat) (most : Option Nat) (operator rest : List Char) :
    Piece × Nat :=
  match rest with
  | '?' :: _ => (.times least most (operator ++ ['?']), operator.length)
  | _ => (.times least most operator, operator.length - 1)

/-! ## The whole pattern -/

/-- The text up to `\E` or the end, with the length of both. -/
def readQuoted : List Char → List Char × Nat
  | [] => ([], 0)
  | '\\' :: 'E' :: _ => ([], 2)
  | c :: rest => let (text, used) := readQuoted rest; (c :: text, used + 1)

/-- The pieces that begin with a backslash, from after it on. -/
def readBackslash (rest : List Char) : Except Error (List Piece × Nat) :=
  match rest with
  | 'b' :: _ => .ok ([.assertion .wordBoundary], 1)
  | 'B' :: _ => .ok ([.assertion .notWordBoundary], 1)
  | 'A' :: _ => .ok ([.assertion .textStart], 1)
  | 'z' :: _ => .ok ([.assertion .textEnd], 1)
  | 'C' :: _ => .ok ([.anyByte], 1)
  | 'Q' :: rest =>
    let (text, used) := readQuoted rest
    .ok (.quote :: text.map fun c => .literal c.toNat, used + 1)
  | 'p' :: rest => (readUnicodeSet 'p' rest).map fun (item, used) =>
      ([.set ⟨[item], false⟩], used + 1)
  | 'P' :: rest => (readUnicodeSet 'P' rest).map fun (item, used) =>
      ([.set ⟨[item], false⟩], used + 1)
  | _ =>
    match rest.head?.bind letterItem? with
    | some item => .ok ([.set ⟨[item], false⟩], 1)
    | none => (readEscape rest).map fun (code, used) => ([.literal code], used)

/-- The pieces that begin with the character `c`, and how many characters of `rest` belong to
    them. -/
def readPieces (c : Char) (rest : List Char) : Except Error (List Piece × Nat) :=
  let one (piece : Piece) : Except Error (List Piece × Nat) := .ok ([piece], 0)
  let some (piece : Piece × Nat) : Except Error (List Piece × Nat) := .ok ([piece.1], piece.2)
  match c with
  | '(' => (readGroup rest).map fun (piece, used) => ([piece], used)
  | ')' => one .closeGroup
  | '|' => one .bar
  | '^' => one .lineStart
  | '$' => one .lineEnd
  | '.' => one .anyChar
  | '[' => (readClass rest).map fun (set, used) => ([.set set], used)
  | '*' => some (timesPiece 0 none ['*'] rest)
  | '+' => some (timesPiece 1 none ['+'] rest)
  | '?' => some (timesPiece 0 (.some 1) ['?'] rest)
  | '\x7b' =>
    match readCounts? rest with
    | .some (least, most, used) =>
      some (timesPiece least most ('\x7b' :: rest.take used) (rest.drop used))
    | none => one (.literal c.toNat)
  | '\\' => readBackslash rest
  | _ => one (.literal c.toNat)

/-- The pieces of a pattern from where `skip` more characters belong to the piece before, and the
    error that ends them, if any. -/
def piecesFrom (skip : Nat) : List Char → List Piece × Option Error
  | [] => ([], none)
  | c :: rest =>
    match skip with
    | skip + 1 => piecesFrom skip rest
    | 0 =>
      match readPieces c rest with
      | .error error => ([], some error)
      | .ok (found, used) =>
        let (pieces, error) := piecesFrom used rest
        (found ++ pieces, error)

/-- The pieces of a pattern up to its first malformed one, and what is wrong with that one. -/
def pieces (pattern : List Char) : List Piece × Option Error :=
  piecesFrom 0 pattern

end CallSites.Regex
