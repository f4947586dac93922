/-
  CallSites.Document.Value

  The values that a configuration document holds. Mappings keep the order of their entries, and
  their keys need not be text.
-/
import CallSites.Document.Time
import CallSites.Number.Decimal
import CallSites.Number.Shortest
import CallSites.Text.Quoted

namespace CallSites

/-- A value of a document. -/
inductive Value where
  | null
  | bool (value : Bool)
  | int (value : Int)
  | float (value : Binary64)
  | str (value : Text)
  | list (items : List Value)
  | map (entries : List (Value × Value))
  | date (value : Document.Date)
  | dateTime (value : Document.DateTime)
  | bytes (value : List UInt8)
  /-- A set. Its items are in the order in which the process goes through them. -/
  | set (items : List Value)
  /-- An entry of an ordered list of entries. -/
  | pair (key value : Value)
  deriving Inhabited

namespace Value

/-! ## Kinds -/

/-- The word for the kind of a value. -/
def kind : Value → String
  | .null => "NoneType"
  | .bool _ => "bool"
  | .int _ => "int"
  | .float _ => "float"
  | .str _ => "str"
  | .list _ => "list"
  | .map _ => "dict"
  | .date _ => "date"
  | .dateTime _ => "datetime"
  | .bytes _ => "bytes"
  | .set _ => "set"
  | .pair _ _ => "tuple"

/-! ## Text -/

private def boolText (value : Bool) : String :=
  if value then "True" else "False"

private def bracketed (opening closing : String) (parts : List String) : String :=
  opening ++ ", ".intercalate parts ++ closing

mutual

/-- How a value is shown inside a message. -/
def shown : Value → Except Exception String
  | .null => .ok "None"
  | .bool value => .ok (boolText value)
  | .int value => Decimal.text value
  | .float value => .ok value.text
  | .str value => .ok (Text.quote value)
  | .list items => (shownItems items).map (bracketed "[" "]")
  | .map entries => (shownEntries entries).map (bracketed "\x7b" "\x7d")
  | .date value => .ok value.shown
  | .dateTime value => .ok value.shown
  | .bytes value => .ok (Text.quoteBytes value)
  | .set [] => .ok "set()"
  | .set items => (shownItems items).map (bracketed "\x7b" "\x7d")
  | .pair key value => do return bracketed "(" ")" [← shown key, ← shown value]

/-- How the items of a list are shown. -/
def shownItems : List Value → Except Exception (List String)
  | [] => .ok []
  | item :: items => do return (← shown item) :: (← shownItems items)

/-- How the entries of a mapping are shown. -/
def shownEntries : List (Value × Value) → Except Exception (List String)
  | [] => .ok []
  | (key, value) :: entries => do
    return ((← shown key) ++ ": " ++ (← shown value)) :: (← shownEntries entries)

end

/-- The text of a value by itself, where text is not quoted and times are plain. -/
def text : Value → Except Exception Text
  | .str value => .ok value
  | .date value => .ok value.text
  | .dateTime value => .ok value.text
  | value => value.shown.map .ofString

/-! ## Mappings -/

/-- The value under a text key. -/
def field? (entries : List (Value × Value)) (name : String) : Option Value :=
  match entries with
  | [] => none
  | (.str key, value) :: entries => if key = .ofString name then some value else field? entries name
  | _ :: entries => field? entries name

/-- Whether there is an entry under a text key. -/
def hasField (entries : List (Value × Value)) (name : String) : Bool :=
  (field? entries name).isSome

/-- The number that a key equals, if it is one: truth counts as one and falsehood as zero. -/
private def integerKey? : Value → Option Int
  | .bool value => some (if value then 1 else 0)
  | .int value => some value
  | .float value => value.toInt?
  | _ => none

/-- Whether two keys are the same. Numbers are the same when they are equal, whatever their kind.
    Lists, mappings and sets are no keys and never the same. -/
def sameKey (left right : Value) : Bool :=
  match integerKey? left, integerKey? right with
  | some a, some b => a == b
  | some _, none | none, some _ => false
  | none, none =>
    match left, right with
    | .null, .null => true
    | .float a, .float b => a == b
    | .str a, .str b => a == b
    | .date a, .date b => a == b
    | .dateTime a, .dateTime b => a == b
    | .bytes a, .bytes b => a == b
    | _, _ => false

/-- Adds an entry. An entry under the same key keeps its place and key and takes the new value. -/
def insert (entries : List (Value × Value)) (key value : Value) : List (Value × Value) :=
  match entries with
  | [] => [(key, value)]
  | (k, v) :: entries =>
    if sameKey k key then (k, value) :: entries else (k, v) :: insert entries key value

/-- The mapping with these entries, in which a later entry replaces an earlier one. -/
def ofEntries (entries : List (Value × Value)) : List (Value × Value) :=
  entries.foldl (fun done entry => insert done entry.1 entry.2) []

end Value

end CallSites
