/-
  CallSites.Yaml.Token

  The tokens of a YAML text. Indentation becomes tokens that open and close block collections, and
  a text that turns out to be a key when its colon follows gets a key token put before it.
-/
import CallSites.Number.Decimal
import CallSites.Text.Utf8
import CallSites.Yaml.Scalar

namespace CallSites.Yaml

/-- A token. -/
inductive Token where
  /-- `%YAML` with the number before the point. -/
  | version (major : Nat)
  /-- `%TAG` -/
  | tagHandle (handle uri : String)
  | otherDirective
  | documentStart
  | documentEnd
  | blockSequenceStart
  | blockMappingStart
  | blockEnd
  | flowSequenceStart
  | flowSequenceEnd
  | flowMappingStart
  | flowMappingEnd
  | blockEntry
  | flowEntry
  | key
  | value
  | alias (name : String)
  | anchor (name : String)
  /-- A tag; without a handle the suffix is the whole tag. -/
  | tag (handle : Option String) (suffix : String)
  | scalar (text : Text) (plain : Bool)
  deriving DecidableEq, Repr

/-- The largest distance between the start of a key and its colon. -/
private def maxKeyLength : Nat := 1024

/-- A token that is a key if a colon follows it. -/
structure PossibleKey where
  /-- The number of tokens before. -/
  token : Nat
  /-- Whether nothing but a key can stand here. -/
  required : Bool
  mark : Mark

/-- The tokens read so far, and what decides the meaning of the text to come. -/
structure Layout where
  place : Place
  tokens : Array Token := #[]
  /-- The number of flow collections around the place. -/
  flowLevel : Nat := 0
  /-- The column of the innermost block collection, or -1 outside of all. -/
  indent : Int := -1
  /-- The columns of the collections around it. -/
  outerIndents : List Int := []
  /-- Whether a key may begin here without a question mark. -/
  keyAllowed : Bool := true
  /-- The possible key of the current flow collection, then those of the collections around. -/
  keys : List (Option PossibleKey) := [none]

namespace Layout

/-! ## Steps -/

private def mark (layout : Layout) : Mark := layout.place.mark

private def column (layout : Layout) : Int := layout.place.mark.column

private def emit (layout : Layout) (token : Token) : Layout :=
  { layout with tokens := layout.tokens.push token }

private def advance (layout : Layout) (count : Nat) : Layout :=
  { layout with place := layout.place.advance count }

private def allowKey (layout : Layout) (allowed : Bool) : Layout :=
  { layout with keyAllowed := allowed }

private def inFlow (layout : Layout) : Bool := layout.flowLevel != 0

/-- Closes the block collections whose column is past `column`. -/
private def closeBlocks (column indent : Int) (tokens : Array Token) :
    List Int → Array Token × Int × List Int
  | [] => (tokens, indent, [])
  | outer :: rest =>
    if column < indent then closeBlocks column outer (tokens.push .blockEnd) rest
    else (tokens, indent, outer :: rest)

private def unwind (layout : Layout) (column : Int) : Layout :=
  if layout.inFlow then layout
  else
    let (tokens, indent, outerIndents) :=
      closeBlocks column layout.indent layout.tokens layout.outerIndents
    { layout with tokens, indent, outerIndents }

/-- Opens a block collection at a column that is past the current one; says whether it did. -/
private def openBlock (layout : Layout) (column : Int) : Bool × Layout :=
  if layout.indent < column then
    (true, { layout with indent := column, outerIndents := layout.indent :: layout.outerIndents })
  else (false, layout)

/-- Forgets the possible key of the current collection, which must not be required. -/
private def dropKey (layout : Layout) : Except Refusal Layout :=
  match layout.keys with
  | some key :: outer =>
    if key.required then .error .malformed else .ok { layout with keys := none :: outer }
  | _ => .ok layout

/-- Notes that a key may begin here. -/
private def saveKey (layout : Layout) : Except Refusal Layout :=
  if layout.keyAllowed then do
    let layout ← layout.dropKey
    let key : PossibleKey :=
      ⟨layout.tokens.size, !layout.inFlow && layout.indent == layout.column, layout.mark⟩
    return { layout with keys := some key :: layout.keys.drop 1 }
  else .ok layout

/-- Forgets the possible keys that begin on another line or too far back. -/
private def dropStaleKeys (layout : Layout) : Except Refusal Layout := do
  let keys ← layout.keys.mapM fun key => match key with
    | none => .ok none
    | some key =>
      if key.mark.line ≠ layout.mark.line ∨ maxKeyLength < layout.mark.index - key.mark.index then
        if key.required then .error Refusal.malformed else .ok none
      else .ok (some key)
  return { layout with keys }

/-! ## Gaps and comments -/

/-- Skips spaces, comments and line breaks; says whether there was a line break. -/
private def skipGaps (inComment broken : Bool) (mark : Mark) : List Char → Bool × Place
  | [] => (broken, ⟨[], mark⟩)
  | c :: rest =>
    let next := mark.past c
    if isBreak c then skipGaps false true next rest
    else if inComment then skipGaps true broken next rest
    else if c == ' ' then skipGaps false broken next rest
    else if c == '#' then skipGaps true broken next rest
    else (broken, ⟨c :: rest, mark⟩)

/-- Goes to where the next token begins. In a block, a key may begin on a new line. -/
private def toToken (layout : Layout) : Layout :=
  let marked := layout.mark.index = 0 ∧ layout.place.rest.head? = some '\uFEFF'
  let place := if marked then layout.place.advance 1 else layout.place
  let (broken, place) := skipGaps false false place.mark place.rest
  { layout with place, keyAllowed := layout.keyAllowed || (broken && !layout.inFlow) }

/-! ## Directives -/

private def readNumber (text : List Char) : Except Refusal (Nat × Nat) :=
  let digits := text.takeWhile Char.isDigit
  if digits = [] then .error .malformed
  else if Decimal.maxDigits < digits.length then
    .error (.raised (Decimal.unreadable digits.length))
  else .ok (digits.foldl (fun n c => n * 10 + (c.toNat - 48)) 0, digits.length)

/-- Whether a space, a line break or the end follows. -/
private def endsDirectiveWord (text : List Char) : Bool :=
  text.head?.all fun c => c == ' ' || isBreak c

private def expect (holds : Bool) : Except Refusal Unit :=
  if holds then .ok () else .error .malformed

/-- The handle of a tag, from its exclamation mark on. -/
private def readHandle (text : List Char) : Except Refusal (List Char) :=
  match text with
  | '!' :: rest =>
    if rest.head? = some ' ' then .ok ['!']
    else
      let word := rest.takeWhile isWordChar
      match rest.drop word.length with
      | '!' :: _ => .ok ('!' :: word ++ ['!'])
      | _ => .error .malformed
  | _ => .error .malformed

private def isUriChar (c : Char) : Bool :=
  c.isAlphanum || "-;/?:@&=+$,_.!~*'()[]%".contains c

private def hexValue? (c : Char) : Option Nat :=
  if c.isDigit then some (c.toNat - 48)
  else if ('a' ≤ c && c ≤ 'f') || ('A' ≤ c && c ≤ 'F') then some (c.toNat % 32 + 9)
  else none

/-- The bytes of a URI, in which a percent sign and two digits stand for a byte. -/
private def uriBytes (skip : Nat) : List Char → Except Refusal (List UInt8)
  | [] => .ok []
  | c :: rest =>
    match skip with
    | skip + 1 => uriBytes skip rest
    | 0 =>
      if c == '%' then
        match rest.head?.bind hexValue?, (rest.drop 1).head?.bind hexValue? with
        | some high, some low =>
          (uriBytes 2 rest).map (UInt8.ofNat (high * 16 + low) :: ·)
        | _, _ => .error .malformed
      else (uriBytes 0 rest).map (String.utf8EncodeChar c ++ ·)

/-- A URI, with the number of its characters. -/
private def readUri (text : List Char) : Except Refusal (String × Nat) := do
  let word := text.takeWhile isUriChar
  if word = [] then throw .malformed
  let bytes ← uriBytes 0 word
  match Text.Utf8.decode bytes with
  | .ok chars => return (String.ofList chars, word.length)
  | .error _ => throw .malformed

private def readVersion (place : Place) : Except Refusal (Token × Place) := do
  let place := place.skip (· == ' ')
  let (major, length) ← readNumber place.rest
  let place := place.advance length
  expect (place.rest.head? = some '.')
  let place := place.advance 1
  let (_, length) ← readNumber place.rest
  let place := place.advance length
  expect (endsDirectiveWord place.rest)
  return (.version major, place)

private def readTagHandle (place : Place) : Except Refusal (Token × Place) := do
  let place := place.skip (· == ' ')
  let handle ← readHandle place.rest
  let place := place.advance handle.length
  expect (place.rest.head? = some ' ')
  let place := place.skip (· == ' ')
  let (uri, length) ← readUri place.rest
  let place := place.advance length
  expect (endsDirectiveWord place.rest)
  return (.tagHandle (String.ofList handle) uri, place)

private def readDirective (place : Place) : Except Refusal (Token × Place) := do
  let place := place.advance 1
  let name := place.rest.takeWhile isWordChar
  expect (name ≠ [])
  let place := place.advance name.length
  expect (endsDirectiveWord place.rest)
  let (token, place) ← match String.ofList name with
    | "YAML" => readVersion place
    | "TAG" => readTagHandle place
    | _ => pure (.otherDirective, place.skip (!isBreak ·))
  return (token, ← place.endLine)

/-! ## Anchors and tags -/

/-- The name after `*` or `&`. -/
private def readName (place : Place) : Except Refusal (String × Place) := do
  let place := place.advance 1
  let name := place.rest.takeWhile isWordChar
  expect (name ≠ [])
  let place := place.advance name.length
  expect (endsWord place.rest ||
    place.rest.head?.any (· ∈ ['?', ':', ',', ']', '\x7d', '%', '@', '\x60']))
  return (String.ofList name, place)

/-- A tag: `!<uri>`, a lone `!`, or a suffix after a handle. -/
private def readTag (place : Place) : Except Refusal (Token × Place) := do
  let after := place.rest.drop 1
  let (token, place) ←
    if after.head? = some '<' then do
      let (uri, length) ← readUri (after.drop 1)
      expect ((after.drop (length + 1)).head? = some '>')
      pure (Token.tag none uri, place.advance (length + 3))
    else if endsWord after then pure (.tag none "!", place.advance 1)
    else do
      let word := after.takeWhile fun c => !(c == ' ' || isBreak c)
      let handle ← if '!' ∈ word then readHandle place.rest else pure ['!']
      let (suffix, length) ← readUri (place.rest.drop handle.length)
      pure (.tag (some (String.ofList handle)) suffix, place.advance (handle.length + length))
  expect (endsDirectiveWord place.rest)
  return (token, place)

/-! ## Reading one token -/

/-- A token that ends all block collections. -/
private def addDocumentMark (layout : Layout) (token : Token) (place : Place) :
    Except Refusal Layout := do
  let layout ← (layout.unwind (-1)).dropKey
  return { (layout.allowKey false).emit token with place }

private def openFlow (layout : Layout) (token : Token) : Except Refusal Layout := do
  let layout ← layout.saveKey
  let layout := (layout.emit token).allowKey true
  return { layout.advance 1 with flowLevel := layout.flowLevel + 1, keys := none :: layout.keys }

private def closeFlow (layout : Layout) (token : Token) : Except Refusal Layout := do
  expect layout.inFlow
  let layout ← layout.dropKey
  let layout := (layout.emit token).allowKey false
  return { layout.advance 1 with
    flowLevel := layout.flowLevel - 1, keys := layout.keys.drop 1 }

private def addFlowEntry (layout : Layout) : Except Refusal Layout := do
  let layout ← (layout.allowKey true).dropKey
  return (layout.emit .flowEntry).advance 1

/-- An entry of a block sequence or an explicit key, which may open its collection. -/
private def addIndicator (layout : Layout) (opening token : Token) (keyAllowed : Bool) :
    Except Refusal Layout := do
  let layout ←
    if layout.inFlow then pure layout
    else do
      expect layout.keyAllowed
      let (opened, layout) := layout.openBlock layout.column
      pure (if opened then layout.emit opening else layout)
  let layout ← (layout.allowKey keyAllowed).dropKey
  return (layout.emit token).advance 1

/-- A colon. It makes the possible key a key, or else belongs to an explicit one. -/
private def addValue (layout : Layout) : Except Refusal Layout :=
  match layout.keys with
  | some key :: outer =>
    let (opened, layout) :=
      if layout.inFlow then (false, layout) else layout.openBlock key.mark.column
    -- Both tokens go before what was read of the key, the start of the mapping first.
    let tokens := layout.tokens.insertIdxIfInBounds key.token .key
    let tokens := if opened then tokens.insertIdxIfInBounds key.token .blockMappingStart else tokens
    let layout := { layout.allowKey false with tokens, keys := none :: outer }
    .ok ((layout.emit .value).advance 1)
  | _ => layout.addIndicator .blockMappingStart .value (!layout.inFlow)

private def addProperty (layout : Layout) (read : Place → Except Refusal (Token × Place)) :
    Except Refusal Layout := do
  let layout ← layout.saveKey
  let (token, place) ← read layout.place
  return { (layout.allowKey false).emit token with place }

private def addBlockScalar (layout : Layout) (folded : Bool) : Except Refusal Layout := do
  let layout ← (layout.allowKey true).dropKey
  let least := max 1 (layout.indent + 1).toNat
  let (text, place) ← readBlock folded least (layout.place.advance 1)
  return { layout.emit (.scalar text false) with place }

private def addQuoted (layout : Layout) (double : Bool) : Except Refusal Layout :=
  layout.addProperty fun place => do
    let place := place.advance 1
    let (text, place) ← readQuoted double 0 [] .none place.mark place.rest
    return (.scalar text false, place)

private def addPlain (layout : Layout) : Except Refusal Layout :=
  layout.addProperty fun place =>
    let (text, place) :=
      readPlain layout.inFlow (layout.indent + 1).toNat [] place .none place.mark place.rest
    .ok (.scalar text true, place)

/-- Whether a plain scalar can begin with the character `c`. -/
private def beginsPlain (inFlow : Bool) (c : Char) (rest : List Char) : Bool :=
  !(isGap c || "-?:,[]\x7b\x7d#&*!|>'\"%@\x60".contains c) ||
    (!endsWord rest && (c == '-' || (!inFlow && (c == '?' || c == ':'))))

/-- Reads the token that begins with the character `c`. -/
private def addToken (layout : Layout) (c : Char) (rest : List Char) : Except Refusal Layout :=
  let inFlow := layout.inFlow
  let lineStart := layout.mark.column = 0
  if c = '%' ∧ lineStart then do
    let (token, place) ← readDirective layout.place
    layout.addDocumentMark token place
  else if lineStart ∧ atSeparator (c :: rest) then
    layout.addDocumentMark (if c = '-' then .documentStart else .documentEnd)
      (layout.place.advance 3)
  else match c with
    | '[' => layout.openFlow .flowSequenceStart
    | '\x7b' => layout.openFlow .flowMappingStart
    | ']' => layout.closeFlow .flowSequenceEnd
    | '\x7d' => layout.closeFlow .flowMappingEnd
    | ',' => layout.addFlowEntry
    | '*' => layout.addProperty fun place => do
        let (name, place) ← readName place
        return (.alias name, place)
    | '&' => layout.addProperty fun place => do
        let (name, place) ← readName place
        return (.anchor name, place)
    | '!' => layout.addProperty readTag
    | '\'' => layout.addQuoted false
    | '"' => layout.addQuoted true
    | _ =>
      if c = '-' ∧ endsWord rest then layout.addIndicator .blockSequenceStart .blockEntry true
      else if c = '?' ∧ (inFlow ∨ endsWord rest) then
        layout.addIndicator .blockMappingStart .key (!inFlow)
      else if c = ':' ∧ (inFlow ∨ endsWord rest) then layout.addValue
      else if c = '|' ∧ !inFlow then layout.addBlockScalar false
      else if c = '>' ∧ !inFlow then layout.addBlockScalar true
      else if beginsPlain inFlow c rest then layout.addPlain
      else .error .malformed

/-! ## Reading all tokens -/

/-- Reads tokens up to the end of the text. Each has at least one character, so there are no more
    of them than `bound`. -/
private def addTokens : Nat → Layout → Except Refusal Layout
  | 0, _ => .error .malformed
  | bound + 1, layout => do
    -- A required key that is stale makes the text malformed before any block is closed.
    let layout ← layout.toToken.dropStaleKeys
    let layout := layout.unwind layout.column
    match layout.place.rest with
    | [] => (layout.unwind (-1)).dropKey
    | c :: rest => addTokens bound (← layout.addToken c rest)

end Layout

/-- The tokens of a text. -/
def tokens (text : List Char) : Except Refusal (List Token) :=
  (Layout.addTokens (text.length + 1) { place := ⟨text, {}⟩ }).map fun layout =>
    layout.tokens.toList

end CallSites.Yaml
