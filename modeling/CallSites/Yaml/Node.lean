/-
  CallSites.Yaml.Node

  Nodes of a document, each with the value that it stands for. A collection stands for a value
  only if its parts do. Collections are filled one level after the other, so of several faults the
  one nearest to the root counts.
-/
import CallSites.Yaml.Literal

namespace CallSites.Yaml

/-- Why a node stands for no value, and how many levels below it the fault lies. -/
structure Failure where
  depth : Nat
  refusal : Refusal
  deriving DecidableEq, Repr

/-- A node with its tag and its value. The entries of a mapping include those merged into it. A
    mapping with a default value can also stand for a scalar, with the text of that value. -/
inductive Node where
  | scalar (tag : Tag) (text : Text) (value : Except Failure Value)
  | sequence (items : List Node) (value : Except Failure Value)
  | mapping (entries : Except Failure (List (Node × Node))) (text : Option Text)
      (value : Except Failure Value)

namespace Node

/-- The value that the node stands for. -/
def value : Node → Except Failure Value
  | .scalar _ _ value | .sequence _ value | .mapping _ _ value => value

/-- The text that the node has as a scalar. -/
def text? : Node → Option Text
  | .scalar _ text _ => some text
  | .sequence _ _ => none
  | .mapping _ text _ => text

/-- Whether the node is the key of a default value. -/
def isDefaultKey : Node → Bool
  | .scalar .value _ _ => true
  | _ => false

private def malformed {α : Type} (depth : Nat) : Except Failure α :=
  .error ⟨depth, .malformed⟩

/-- An outcome one level further up. -/
private def deeper {α : Type} (outcome : Except Failure α) : Except Failure α :=
  outcome.mapError fun failure => { failure with depth := failure.depth + 1 }

/-- All values, or the failure nearest to the root; of several at one level the first. -/
private def gather {α : Type} : List (Except Failure α) → Except Failure (List α)
  | [] => .ok []
  | outcome :: outcomes =>
    match outcome, gather outcomes with
    | .ok value, .ok values => .ok (value :: values)
    | .ok _, .error failure => .error failure
    | .error failure, .ok _ => .error failure
    | .error first, .error later => .error (if later.depth < first.depth then later else first)

/-! ## Scalars -/

/-- A scalar with a tag. -/
def ofScalar (tag : Tag) (text : Text) : Node :=
  let value :=
    if tag ∈ [.seq, .map, .set, .omap, .pairs] then malformed 1
    else (Literal.ofTag tag text).mapError (⟨0, ·⟩)
  .scalar tag text value

/-! ## Mappings -/

/-- The entries that a merge key brings in: those of a mapping, or of several, the last first. -/
private def mergedEntries (node : Node) : Except Failure (List (Node × Node)) :=
  let entriesOf : Node → Except Failure (List (Node × Node))
    | .mapping entries _ _ => entries
    | _ => malformed 0
  match node with
  | .sequence items _ => (items.mapM entriesOf).map fun lists => lists.reverse.flatten
  | node => entriesOf node

/-- The entries of a mapping in which merged ones come before its own, and a key of default
    values counts as text. -/
private def flatten : List (Node × Node) → List (Node × Node) → List (Node × Node) →
    Except Failure (List (Node × Node))
  | merged, own, [] => .ok (merged ++ own.reverse)
  | merged, own, (.scalar tag text value, node) :: entries =>
    match tag with
    | .merge =>
      match mergedEntries node with
      | .error failure => .error failure
      | .ok found => flatten (merged ++ found) own entries
    | .value => flatten merged ((ofScalar .str text, node) :: own) entries
    | _ => flatten merged ((.scalar tag text value, node) :: own) entries
  | merged, own, entry :: entries => flatten merged (entry :: own) entries

/-- The value of a key. A list, a mapping or a set is none. -/
private def keyValue (node : Node) : Except Failure Value :=
  match node, node.value with
  | .scalar _ _ value, _ => value
  | _, .ok (.list _) | _, .ok (.map _) | _, .ok (.set _) => malformed 0
  | _, .ok value => .ok value
  | _, .error failure => if failure.depth = 0 then .error failure else malformed 0

/-- The keys and values of entries. -/
private def entryValues (entries : List (Node × Node)) :
    Except Failure (List (Value × Value)) :=
  let outcomes := entries.flatMap fun entry => [keyValue entry.1, entry.2.value]
  let pairs := entries.filterMap fun entry =>
    match keyValue entry.1, entry.2.value with
    | .ok key, .ok value => some (key, value)
    | _, _ => none
  (gather outcomes).map fun _ => Value.ofEntries pairs

/-- The value of a mapping with the tag of a scalar, from the text of its default value. A time is
    looked for in the entries themselves, which are no text. -/
private def scalarValue (tag : Tag) (text : Option Text) : Except Failure Value :=
  match text, tag with
  | none, _ => malformed 0
  | some _, .timestamp =>
    .error ⟨0, .raised ⟨"TypeError", "expected string or bytes-like object, got 'list'"⟩⟩
  | some text, tag => (Literal.ofTag tag text).mapError (⟨0, ·⟩)

/-- A mapping with a tag. -/
def ofEntries (tag : Tag) (entries : List (Node × Node)) : Node :=
  let flat := flatten [] [] entries
  let text := (entries.find? fun entry => entry.1.isDefaultKey).bind fun entry => entry.2.text?
  let values := deeper (flat.bind entryValues)
  let value := match tag with
    | .map => values.map .map
    | .set => values.map fun entries => .set (entries.map Prod.fst)
    | .seq | .omap | .pairs => malformed 1
    | tag => scalarValue tag text
  .mapping flat text value

/-! ## Sequences -/

/-- An item that is a mapping with one entry, as a pair. -/
private def pairValue : Node → Except Failure Value
  | .mapping (.ok [(key, value)]) _ _ =>
    match gather [key.value, value.value] with
    | .ok [key, value] => .ok (.pair key value)
    | .ok _ => malformed 0
    | .error failure => .error failure
  | _ => malformed 0

/-- A sequence with a tag. -/
def ofItems (tag : Tag) (items : List Node) : Node :=
  let value := match tag with
    | .seq => deeper ((gather (items.map Node.value)).map .list)
    | .omap | .pairs => deeper ((gather (items.map pairValue)).map .list)
    | .map | .set => malformed 1
    | _ => malformed 0
  .sequence items value

/-! ## Collections inside themselves -/

/-- What a sequence stands for inside itself. -/
def innerSequence : Node := .sequence [] (.ok (.list []))

/-- What a mapping stands for inside itself. -/
def innerMapping : Node := .mapping (.ok []) none (.ok (.map []))

end Node

end CallSites.Yaml
