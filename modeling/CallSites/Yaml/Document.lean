/-
  CallSites.Yaml.Document

  Reading a document: its tokens are put together to nodes, and the root node stands for the value
  of the document. A text holds at most one document.
-/
import CallSites.Yaml.Node
import CallSites.Yaml.Token

namespace CallSites.Yaml

/-- The tokens to come, and the nodes that have a name. -/
structure Reading where
  tokens : List Token
  anchors : List (String × Node) := []

/-- A step that reads tokens. -/
abbrev Reader := StateT Reading (Except Refusal)

namespace Reader

private def malformed {α : Type} : Reader α := throw .malformed

private def peek : Reader (Option Token) :=
  return (← get).tokens.head?

private def next : Reader Unit :=
  modify fun reading => { reading with tokens := reading.tokens.drop 1 }

/-- Reads the token if it comes next; says whether it did. -/
private def accept (token : Token) : Reader Bool := do
  if (← peek) = some token then next; return true
  else return false

private def expect (token : Token) : Reader Unit := do
  unless ← accept token do malformed

/-- Whether one of the tokens, or the end, comes next. -/
private def atAny (tokens : List Token) : Reader Bool :=
  return (← peek).all (· ∈ tokens)

private def find (name : String) : Reader (Option Node) :=
  return (← get).anchors.lookup name

/-- Gives a node a name, if there is one. -/
private def name (anchor : Option String) (node : Node) : Reader Unit :=
  match anchor with
  | none => pure ()
  | some name => modify fun reading => { reading with anchors := (name, node) :: reading.anchors }

/-! ## Properties of nodes -/

private def readAnchor : Reader (Option String) := do
  match ← peek with
  | some (.anchor name) =>
    next
    if (← find name).isSome then malformed else return some name
  | _ => return none

/-- The name of a tag, its handle replaced by what it stands for. -/
private def readTag (handles : List (String × String)) : Reader (Option String) := do
  match ← peek with
  | some (.tag handle suffix) =>
    next
    match handle with
    | none => return some suffix
    | some handle =>
      match handles.lookup handle with
      | none => malformed
      | some uri => return some (uri ++ suffix)
  | _ => return none

/-- The anchor and the tag before a node, in either order. -/
private def readProperties (handles : List (String × String)) :
    Reader (Option String × Option String) := do
  match ← readAnchor with
  | some anchor => return (some anchor, ← readTag handles)
  | none =>
    let tag ← readTag handles
    return (← readAnchor, tag)

/-- The tag of a collection, which a lone exclamation mark leaves as it is. -/
private def collectionTag (tag : Option String) (usual : Tag) : Tag :=
  match tag with
  | none | some "!" => usual
  | some uri => .ofUri uri

/-- The tag of a scalar: by its form if it is plain or marked by a lone exclamation mark. -/
private def scalarTag (tag : Option String) (plain : Bool) (text : Text) : Tag :=
  match tag with
  | none => if plain then .ofPlain text else .str
  | some "!" => .ofPlain text
  | some uri => .ofUri uri

/-- A node without text. -/
private def emptyNode : Node := .ofScalar .null ""

/-! ## Nodes -/

/-- Where a node stands: in a flow collection, in a block, or in a block mapping, where a sequence
    needs no indentation of its own. -/
inductive Context where
  | flow
  | block
  | mappingValue
  deriving DecidableEq, Repr

mutual

/-- Reads a node. Calls nest and repeat no more often than there are tokens, to which `bound` is
    set. -/
private def readNode (handles : List (String × String)) (context : Context) :
    Nat → Reader Node
  | 0 => malformed
  | bound + 1 => do
    match ← peek with
    | some (.alias name) =>
      next
      match ← find name with
      | some node => return node
      | none => malformed
    | _ =>
      let (anchor, tag) ← readProperties handles
      let node ← readContent handles context anchor tag bound
      name anchor node
      return node

/-- Reads what a node holds, after its properties. -/
private def readContent (handles : List (String × String)) (context : Context)
    (anchor tag : Option String) : Nat → Reader Node
  | 0 => malformed
  | bound + 1 => do
    let sequence (items : Reader (List Node)) : Reader Node := do
      name anchor .innerSequence
      return .ofItems (collectionTag tag .seq) (← items)
    let mapping (entries : Reader (List (Node × Node))) : Reader Node := do
      name anchor .innerMapping
      return .ofEntries (collectionTag tag .map) (← entries)
    match ← peek, context with
    | some (.scalar text plain), _ =>
      next
      return .ofScalar (scalarTag tag plain text) text
    | some .flowSequenceStart, _ =>
      next
      sequence (readFlowItems handles true bound)
    | some .flowMappingStart, _ =>
      next
      mapping (readFlowEntries handles true bound)
    | some .blockEntry, .mappingValue => sequence (readItems handles false bound)
    | some .blockSequenceStart, .block | some .blockSequenceStart, .mappingValue =>
      next
      sequence (readItems handles true bound)
    | some .blockMappingStart, .block | some .blockMappingStart, .mappingValue =>
      next
      mapping (readEntries handles bound)
    | _, _ =>
      if anchor.isSome || tag.isSome then return .ofScalar (scalarTag tag true "") ""
      else malformed

/-- Reads a node, or none at all if one of the tokens comes next. -/
private def readOptional (handles : List (String × String)) (context : Context)
    (stops : List Token) : Nat → Reader Node
  | 0 => malformed
  | bound + 1 => do
    if ← atAny stops then return emptyNode
    else readNode handles context bound

/-- Reads the items of a block sequence, with its end if it has indentation of its own. -/
private def readItems (handles : List (String × String)) (indented : Bool) :
    Nat → Reader (List Node)
  | 0 => malformed
  | bound + 1 => do
    if ← accept .blockEntry then
      let stops := if indented then [.blockEntry, .blockEnd]
        else [.blockEntry, .key, .value, .blockEnd]
      let item ← readOptional handles .block stops bound
      return item :: (← readItems handles indented bound)
    else
      if indented then expect .blockEnd
      return []

/-- Reads the entries of a block mapping and its end. -/
private def readEntries (handles : List (String × String)) : Nat → Reader (List (Node × Node))
  | 0 => malformed
  | bound + 1 => do
    if ← accept .key then
      let stops := [.key, .value, .blockEnd]
      let key ← readOptional handles .mappingValue stops bound
      let value ← if ← accept .value then readOptional handles .mappingValue stops bound
        else pure emptyNode
      return (key, value) :: (← readEntries handles bound)
    else
      expect .blockEnd
      return []

/-- Reads the items of a flow sequence and its end. An entry with a key is a mapping of its own. -/
private def readFlowItems (handles : List (String × String)) (first : Bool) :
    Nat → Reader (List Node)
  | 0 => malformed
  | bound + 1 => do
    if ← accept .flowSequenceEnd then return []
    unless first do
      expect .flowEntry
    if ← accept .flowSequenceEnd then return []
    let item ←
      if ← accept .key then
        let stops := [.flowEntry, .flowSequenceEnd]
        let key ← readOptional handles .flow (.value :: stops) bound
        let value ← if ← accept .value then readOptional handles .flow stops bound
          else pure emptyNode
        pure (Node.ofEntries .map [(key, value)])
      else readNode handles .flow bound
    return item :: (← readFlowItems handles false bound)

/-- Reads the entries of a flow mapping and its end. A node without a colon is a key. -/
private def readFlowEntries (handles : List (String × String)) (first : Bool) :
    Nat → Reader (List (Node × Node))
  | 0 => malformed
  | bound + 1 => do
    if ← accept .flowMappingEnd then return []
    unless first do
      expect .flowEntry
    if ← accept .flowMappingEnd then return []
    let stops := [.flowEntry, .flowMappingEnd]
    let entry ←
      if ← accept .key then
        let key ← readOptional handles .flow (.value :: stops) bound
        let value ← if ← accept .value then readOptional handles .flow stops bound
          else pure emptyNode
        pure (key, value)
      else pure (← readNode handles .flow bound, emptyNode)
    return entry :: (← readFlowEntries handles false bound)

end

/-! ## Documents -/

/-- What a document begins with: whether its version was given, and the handles it declares. -/
private structure Preamble where
  hasVersion : Bool := false
  handles : List (String × String) := []

/-- Reads directives. Neither the version nor a handle may be given twice. -/
private def readDirectives (preamble : Preamble) :
    List Token → Except Refusal (Preamble × List Token)
  | .version major :: tokens =>
    if preamble.hasVersion ∨ major ≠ 1 then .error .malformed
    else readDirectives { preamble with hasVersion := true } tokens
  | .tagHandle handle uri :: tokens =>
    if (preamble.handles.lookup handle).isSome then .error .malformed
    else readDirectives { preamble with handles := (handle, uri) :: preamble.handles } tokens
  | .otherDirective :: tokens => readDirectives preamble tokens
  | tokens => .ok (preamble, tokens)

/-- The handles that need no declaration. -/
private def usualHandles : List (String × String) :=
  [("!", "!"), ("!!", Tag.standardUri)]

private def isDocumentMark : Token → Bool
  | .version _ | .tagHandle _ _ | .otherDirective | .documentStart | .documentEnd => true
  | _ => false

/-- Reads the root node. After an explicit start of the document it may be missing. -/
private def readRoot (handles : List (String × String)) (explicit : Bool) : Reader Node := do
  let bound := 4 * (← get).tokens.length + 4
  match ← peek with
  | none => return emptyNode
  | some token =>
    if explicit && isDocumentMark token then return emptyNode
    else readNode handles .block bound

end Reader

/-- The value of the document that the tokens make up. -/
def readTokens (tokens : List Token) : Except Refusal Value := do
  let (preamble, rest) ← Reader.readDirectives {} tokens
  let explicit := rest.head? = some .documentStart
  if rest.length < tokens.length ∧ !explicit then throw .malformed
  let rest := if explicit then rest.drop 1 else rest
  let handles := preamble.handles ++ Reader.usualHandles
  let (root, reading) ← (Reader.readRoot handles explicit).run { tokens := rest }
  unless reading.tokens.all (· = .documentEnd) do throw .malformed
  root.value.mapError Failure.refusal

/-! ## Texts -/

/-- The text with every line break of a file as a line feed. -/
private def joinReturns : List Char → List Char
  | '\r' :: '\n' :: rest => '\n' :: joinReturns rest
  | '\r' :: rest => '\n' :: joinReturns rest
  | c :: rest => c :: joinReturns rest
  | [] => []

/-- The characters that a text may hold. -/
private def isAllowed (c : Char) : Bool :=
  let code := c.toNat
  code == 0x9 || code == 0xA || (0x20 ≤ code && code ≤ 0x7E) || code == 0x85 ||
    (0xA0 ≤ code && code ≤ 0xFFFD) || 0x10000 ≤ code

/-- The value of the document in a text. -/
def readText (text : List Char) : Except Refusal Value := do
  let text := joinReturns text
  unless text.all isAllowed do throw .malformed
  readTokens (← tokens text)

end CallSites.Yaml
