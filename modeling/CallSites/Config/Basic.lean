/-
  CallSites.Config.Basic

  The configuration of a matcher, and how it is read from the value of a document. Reading checks
  the shape of the document and derives descriptors from type names; it compiles nothing.
-/
import CallSites.Document.Value
import CallSites.Matcher.Basic

namespace CallSites

/-! ## Formats -/

/-- The format that a value names. -/
def NameFormat.ofValue? : Value → Option NameFormat
  | .str word => ofWord? word
  | _ => none

/-! ## Configurations -/

/-- Which class matcher to build: `exact` or `regex`. -/
structure ClassChoice where
  variant : Text
  value : Text
  deriving DecidableEq, Repr

/-- Which method matcher to build: `name`, `regex` or `signature`. Only a signature has a
    descriptor. -/
structure MethodChoice where
  variant : Text
  value : Text
  descriptor : Option Text
  deriving DecidableEq, Repr

/-- The configuration of one matcher. -/
structure MatcherConfig where
  classes : ClassChoice
  methods : MethodChoice
  format : NameFormat
  deriving DecidableEq, Repr

namespace MatcherConfig

/-- The entries of a mapping. -/
abbrev Entries := List (Value × Value)

/-- A failure for a fault in the shape. -/
def fail {α : Type} (fault : ConfigFault) : Except MatcherError α :=
  .error (.config fault)

/-- A step that prints values. What it raises is no fault in the shape. -/
def printing {α : Type} (outcome : Except Exception α) : Except MatcherError α :=
  outcome.mapError .raised

/-- A value that must be text. -/
def text (what : String) : Value → Except MatcherError Text
  | .str value => .ok value
  | value => fail (.notText what value.kind)

/-- The texts of a list, if it holds nothing else. -/
def texts? : List Value → Option (List Text)
  | [] => some []
  | .str value :: items => (texts? items).map (value :: ·)
  | _ => none

/-! ## Variants -/

/-- The texts of the keys, in order. -/
def keyTexts (entries : Entries) : Except Exception (List Text) :=
  ((entries.map Prod.fst).mapM Value.text).map (List.mergeSort · Text.isAtMost)

/-- The one variant that a part of the configuration has, with its value. -/
def oneVariant (part : String) (variants : List String) (value : Value) :
    Except MatcherError (String × Value) :=
  match value with
  | .map entries =>
    match variants.filterMap fun name => (Value.field? entries name).map (name, ·) with
    | [found] => .ok found
    | _ => do
      let keys ← printing (keyTexts entries)
      fail (.notOneVariant part variants keys)
  | value => fail (.partNotMapping part value.kind)

def readClass (value : Value) : Except MatcherError ClassChoice := do
  let (variant, value) ← oneVariant "class" ["exact", "regex"] value
  return ⟨variant, ← text ("class " ++ variant) value⟩

/-- The names of the parameter types, if they are a list of texts. A signature without them has no
    parameters. -/
def parameterNames? (entries : Entries) : Option (List Text) :=
  match (Value.field? entries "parameters").getD (.list []) with
  | .list items => texts? items
  | _ => none

/-- The descriptor of a signature: as it is given, or derived from type names. -/
def readDescriptor (name : Text) (entries : Entries) : Except MatcherError Text :=
  match Value.field? entries "descriptor" with
  | some descriptor =>
    if Value.hasField entries "parameters" || Value.hasField entries "returns" then
      fail .descriptorCombined
    else text "method signature descriptor" descriptor
  | none =>
    match parameterNames? entries with
    | none => fail .parametersNotNames
    | some parameters => do
      let result ← text "method signature returns"
        ((Value.field? entries "returns").getD (.str voidWord))
      match MethodHandle.ofTypes name (parameters.map .written) (.written result) with
      | .ok method => return method.descriptor.text
      | .error error => throw (.invalidDescriptor error)

def readSignature (value : Value) : Except MatcherError MethodChoice :=
  match value with
  | .map entries => do
    let name ← text "method signature name" ((Value.field? entries "name").getD .null)
    let descriptor ← readDescriptor name entries
    return ⟨"signature", name, some descriptor⟩
  | value => fail (.partNotMapping "method signature" value.kind)

def readMethod (value : Value) : Except MatcherError MethodChoice := do
  let (variant, value) ← oneVariant "method" ["name", "regex", "signature"] value
  if variant = "signature" then readSignature value
  else return ⟨variant, ← text ("method " ++ variant) value, none⟩

/-! ## Documents -/

def readFormat (value : Value) : Except MatcherError NameFormat :=
  match NameFormat.ofValue? value with
  | some format => .ok format
  | none => do fail (.unknownFormat (← printing value.shown))

/-- The shorthand for the constructors of a class. -/
def readAllocations (entries : Entries) (value : Value) (format : NameFormat) :
    Except MatcherError MatcherConfig :=
  if Value.hasField entries "class" || Value.hasField entries "method" then
    fail .allocationsCombined
  else do
    let name ← text "allocations" value
    return ⟨⟨"exact", name⟩, ⟨"name", constructorName, none⟩, format⟩

/-- The configuration of one matcher. -/
def ofValue : Value → Except MatcherError MatcherConfig
  | .map entries => do
    let format ← readFormat
      ((Value.field? entries "class_name_format").getD (.str NameFormat.internal.word))
    match Value.field? entries "allocations" with
    | some value => readAllocations entries value format
    | none =>
      match Value.field? entries "class", Value.field? entries "method" with
      | none, _ => fail (.missingField "class")
      | _, none => fail (.missingField "method")
      | some classes, some methods =>
        let classes ← readClass classes
        let methods ← readMethod methods
        return ⟨classes, methods, format⟩
  | value => fail (.notMapping value.kind)

/-- The configurations of a document: one matcher, or a list of them under `matchers`. -/
def listOfValue (value : Value) : Except MatcherError (List MatcherConfig) :=
  let matchers := match value with
    | .map entries => Value.field? entries "matchers"
    | _ => none
  match matchers with
  | none => (ofValue value).map ([·])
  | some (.list []) => fail .matchersEmpty
  | some (.list items) => items.mapM ofValue
  | some value => fail (.matchersNotList value.kind)

end MatcherConfig

end CallSites
