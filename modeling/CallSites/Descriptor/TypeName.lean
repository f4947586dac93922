/-
  CallSites.Descriptor.TypeName

  Type names as source code writes them, and the descriptors they stand for. A class handle stands
  for the class type whatever its name; any other type is a word or class name followed by one pair
  of brackets per array dimension.
-/
import CallSites.ClassName
import CallSites.Descriptor.Error

namespace CallSites

/-! ## Handles to classes -/

/-- The internal class name that a name in either spelling stands for. -/
def internalName (name : Text) : Except DescriptorError InternalName :=
  (InternalName.ofChars (toInternalName name).toList).mapError (⟨name, ·⟩)

/-- A class, by its name in either spelling. -/
structure ClassHandle where
  name : Text
  internal : InternalName
  internal_eq : internalName name = .ok internal

namespace ClassHandle

/-- The handle of the class with this name. -/
def ofName (name : Text) : Except DescriptorError ClassHandle :=
  match h : internalName name with
  | .ok internal => .ok ⟨name, internal, h⟩
  | .error error => .error error

theorem eq_of_name_eq {a b : ClassHandle} (h : a.name = b.name) : a = b := by
  obtain ⟨name, internal, ha⟩ := a
  obtain ⟨name', internal', hb⟩ := b
  obtain rfl : name = name' := h
  obtain rfl : internal = internal' := by simpa [ha] using hb
  rfl

/-- Handles are equal when their names are spelled alike. -/
instance : DecidableEq ClassHandle := fun a b =>
  if h : a.name = b.name then .isTrue (eq_of_name_eq h)
  else .isFalse fun heq => h (congrArg name heq)

/-- The type of the class. -/
def fieldType (cls : ClassHandle) : FieldType :=
  ⟨0, .reference cls.internal, Nat.zero_le _⟩

/-- The descriptor of the class. -/
def descriptor (cls : ClassHandle) : Text :=
  cls.fieldType.text

end ClassHandle

/-! ## Type names -/

/-- A type name: text, or a handle to a class. -/
inductive TypeName where
  | written (text : Text)
  | handle (cls : ClassHandle)
  deriving DecidableEq

/-- The pairs of brackets at the end of a reversed text, and the reversed rest. -/
def splitDimensions : List Symbol → Nat × List Symbol
  | .char ']' :: .char '[' :: rest =>
    let (dimensions, base) := splitDimensions rest
    (dimensions + 1, base)
  | base => (0, base)

/-- The type that a base name with array dimensions stands for. -/
def typeOfBase (base : List Symbol) (dimensions : Nat) :
    Except DescriptorFault ReturnType :=
  if base = [] then .error .emptyTypeName
  else if h : dimensions ≤ maxDimensions then
    if base = (voidWord : Text).toList then
      if dimensions = 0 then .ok .void else .error .misplacedVoid
    else match Primitive.ofWord? (.ofList base) with
      | some type => .ok (.value ⟨dimensions, .primitive type, h⟩)
      | none =>
        match InternalName.ofChars (base.map (Symbol.mapChar NameFormat.internal.respell)) with
        | .error fault => .error fault
        | .ok name => .ok (.value ⟨dimensions, .reference name, h⟩)
  else .error (.dimensionsExceeded dimensions)

namespace TypeName

/-- The type that the name stands for as a result, where `void` is a type. -/
def toReturnType : TypeName → Except DescriptorError ReturnType
  | .handle cls => .ok (.value cls.fieldType)
  | .written text =>
    let (dimensions, reversed) := splitDimensions text.toList.reverse
    (typeOfBase reversed.reverse dimensions).mapError (⟨text, ·⟩)

/-- The name as it is written. -/
def text : TypeName → Text
  | .written text => text
  | .handle cls => cls.name

/-- The type that the name stands for as a parameter, where `void` is none. -/
def toFieldType (name : TypeName) : Except DescriptorError FieldType :=
  match name.toReturnType with
  | .error error => .error error
  | .ok .void => .error ⟨name.text, .misplacedVoid⟩
  | .ok (.value type) => .ok type

end TypeName

/-- What is given for the types of parameters: their names, or one text by mistake. -/
inductive ParameterTypes where
  | names (names : List TypeName)
  | text (text : Text)

/-! ## Handles to methods -/

/-- The descriptor of a method with these parameter and result types. The first name at fault, the
    result coming last, is reported. -/
def MethodDescriptor.ofTypeNames (parameters : List TypeName) (result : TypeName) :
    Except DescriptorError MethodDescriptor :=
  match parameters.mapM TypeName.toFieldType with
  | .error error => .error error
  | .ok types =>
    match result.toReturnType with
    | .error error => .error error
    | .ok type => .ok ⟨types, type⟩

/-- A method, by its name and the names of its types. -/
structure MethodHandle where
  name : Text
  parameters : List TypeName := []
  result : TypeName := .written voidWord
  descriptor : MethodDescriptor
  descriptor_eq : MethodDescriptor.ofTypeNames parameters result = .ok descriptor

namespace MethodHandle

/-- The handle of the method with these types. -/
def ofTypes (name : Text) (parameters : List TypeName) (result : TypeName) :
    Except DescriptorError MethodHandle :=
  match h : MethodDescriptor.ofTypeNames parameters result with
  | .ok descriptor => .ok ⟨name, parameters, result, descriptor, h⟩
  | .error error => .error error

/-- The handle of the method with the types that are given. One text is no list of names, although
    it could be read as one of its characters. -/
def ofGiven (name : Text) (parameters : ParameterTypes) (result : TypeName) :
    Except DescriptorError MethodHandle :=
  match parameters with
  | .names names => ofTypes name names result
  | .text text => .error ⟨text, .parametersAsText⟩

theorem eq_of_parts_eq {a b : MethodHandle} (hname : a.name = b.name)
    (hparameters : a.parameters = b.parameters) (hresult : a.result = b.result) : a = b := by
  obtain ⟨name, parameters, result, descriptor, ha⟩ := a
  obtain ⟨name', parameters', result', descriptor', hb⟩ := b
  obtain rfl : name = name' := hname
  obtain rfl : parameters = parameters' := hparameters
  obtain rfl : result = result' := hresult
  obtain rfl : descriptor = descriptor' := by simpa [ha] using hb
  rfl

/-- Handles are equal when their names and type names are written alike. -/
instance : DecidableEq MethodHandle := fun a b =>
  if h : a.name = b.name ∧ a.parameters = b.parameters ∧ a.result = b.result then
    .isTrue (eq_of_parts_eq h.1 h.2.1 h.2.2)
  else .isFalse fun heq => h (heq ▸ ⟨rfl, rfl, rfl⟩)

end MethodHandle

end CallSites
