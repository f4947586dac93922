/-
  CallSites.Descriptor.Basic

  Method descriptors of class files. A field type is a number of array dimensions before a
  primitive letter or a class name between `L` and `;`; a method descriptor lists the types of the
  parameters between parentheses and ends with the type of the result. The limits of the grammar
  are part of the types, so every value here has a legal text.
-/
import CallSites.Text.Basic
import CallSites.Text.Blank

namespace CallSites

/-! ## Primitive types -/

/-- The primitive types of fields. -/
inductive Primitive where
  | boolean | byte | char | short | int | long | float | double
  deriving DecidableEq, Repr

namespace Primitive

/-- All primitive types. -/
def all : List Primitive := [boolean, byte, char, short, int, long, float, double]

/-- The word of source code. -/
def word : Primitive → String
  | boolean => "boolean"
  | byte => "byte"
  | char => "char"
  | short => "short"
  | int => "int"
  | long => "long"
  | float => "float"
  | double => "double"

/-- The letter in descriptors. -/
def code : Primitive → Char
  | boolean => 'Z'
  | byte => 'B'
  | char => 'C'
  | short => 'S'
  | int => 'I'
  | long => 'J'
  | float => 'F'
  | double => 'D'

/-- The type with this word. -/
def ofWord? (word : Text) : Option Primitive :=
  all.find? fun type => (type.word : Text) == word

/-- The type with this letter. -/
def ofCode? : Symbol → Option Primitive
  | .char 'Z' => some boolean
  | .char 'B' => some byte
  | .char 'C' => some char
  | .char 'S' => some short
  | .char 'I' => some int
  | .char 'J' => some long
  | .char 'F' => some float
  | .char 'D' => some double
  | _ => none

@[simp] theorem ofCode?_code (p : Primitive) : ofCode? p.code = some p := by
  cases p <;> rfl

@[simp] theorem ofWord?_word (p : Primitive) : ofWord? p.word = some p := by
  cases p <;> decide

theorem eq_of_ofCode? {c : Symbol} {p : Primitive} (h : ofCode? c = some p) : c = p.code := by
  unfold ofCode? at h
  split at h <;> cases h <;> rfl

end Primitive

/-- The word for a method without a result. -/
def voidWord : String := "void"

/-- The letter for a method without a result. -/
def voidCode : Char := 'V'

/-! ## Class names in descriptors -/

/-- The parts of a text between slashes. There is always one part more than slashes. -/
def segments : List Symbol → List (List Symbol)
  | [] => [[]]
  | c :: rest =>
    if c = '/' then [] :: segments rest
    else match segments rest with
      | [] => [[c]]
      | segment :: more => (c :: segment) :: more

/-- Whether a code point may occur in a segment of an internal class name. -/
def isNameChar : Symbol → Bool
  | .char c => !(c ∈ ['.', ';', '[', '(', ')', '<', '>']) && !Text.isBlank c
  | .surrogate _ => true

/-- Whether a text is an internal class name: no segment is empty or holds a character that has a
    meaning in descriptors, a dot or a blank. -/
def IsInternalName (text : List Symbol) : Prop :=
  ∀ segment ∈ segments text, segment ≠ [] ∧ segment.all isNameChar = true

instance (text : List Symbol) : Decidable (IsInternalName text) :=
  inferInstanceAs (Decidable (∀ _ ∈ _, _))

/-- An internal class name. -/
structure InternalName where
  chars : List Symbol
  legal : IsInternalName chars
  deriving DecidableEq

/-! ## Types -/

/-- What an array holds in the end. -/
inductive Element where
  | primitive (type : Primitive)
  | reference (name : InternalName)
  deriving DecidableEq

/-- The text of an element type. -/
def Element.chars : Element → List Symbol
  | .primitive type => [.char type.code]
  | .reference name => .char 'L' :: (name.chars ++ [.char ';'])

/-- The largest number of array dimensions. -/
def maxDimensions : Nat := 255

/-- The type of a field or parameter. -/
structure FieldType where
  dimensions : Nat
  element : Element
  dimensions_le : dimensions ≤ maxDimensions := by decide
  deriving DecidableEq

/-- The text of a field type. -/
def FieldType.chars (type : FieldType) : List Symbol :=
  List.replicate type.dimensions (.char '[') ++ type.element.chars

/-- The type of a result. -/
inductive ReturnType where
  | void
  | value (type : FieldType)
  deriving DecidableEq

/-- The text of a result type. -/
def ReturnType.chars : ReturnType → List Symbol
  | .void => [.char voidCode]
  | .value type => type.chars

/-- The types of a method. -/
structure MethodDescriptor where
  parameters : List FieldType
  result : ReturnType
  deriving DecidableEq

/-- The text of a method descriptor. -/
def MethodDescriptor.chars (descriptor : MethodDescriptor) : List Symbol :=
  .char '(' ::
    (descriptor.parameters.flatMap FieldType.chars ++ .char ')' :: descriptor.result.chars)

/-- The text of a field type. -/
def FieldType.text (type : FieldType) : Text := .ofList type.chars

/-- The text of a result type. -/
def ReturnType.text (type : ReturnType) : Text := .ofList type.chars

/-- The text of a method descriptor. -/
def MethodDescriptor.text (descriptor : MethodDescriptor) : Text :=
  .ofList descriptor.chars

end CallSites
