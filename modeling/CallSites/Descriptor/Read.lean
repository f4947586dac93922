/-
  CallSites.Descriptor.Read

  Reading method descriptors. A field type is read from the front of a text and what is left of
  the text is shorter, so reading ends; the position is only needed to report a fault.
-/
import CallSites.Descriptor.Error

namespace CallSites

/-! ## Field types -/

/-- Reads an element type. -/
def Element.read (position : Nat) :
    List Symbol → Except DescriptorFault (Element × List Symbol)
  | [] => .error .truncatedType
  | c :: rest =>
    match Primitive.ofCode? c with
    | some type => .ok (.primitive type, rest)
    | none =>
      if c = .char 'L' then
        match rest.dropWhile (· != .char ';') with
        | [] => .error .unterminatedReference
        | _ :: after =>
          match InternalName.ofChars (rest.takeWhile (· != .char ';')) with
          | .error fault => .error fault
          | .ok name => .ok (.reference name, after)
      else .error (.unexpected c position)

/-- Reads a field type. -/
def FieldType.read (position : Nat) (text : List Symbol) :
    Except DescriptorFault (FieldType × List Symbol) :=
  let dimensions := (text.takeWhile (· == .char '[')).length
  if h : dimensions ≤ maxDimensions then
    match Element.read (position + dimensions) (text.dropWhile (· == .char '[')) with
    | .error fault => .error fault
    | .ok (element, rest) => .ok (⟨dimensions, element, h⟩, rest)
  else .error .dimensionsOverrun

private theorem length_dropWhile_le (p : Symbol → Bool) (text : List Symbol) :
    (text.dropWhile p).length ≤ text.length := by
  induction text with
  | nil => simp
  | cons c rest ih =>
    rw [List.dropWhile_cons]
    split
    · simp only [List.length_cons]; omega
    · exact Nat.le_refl _

theorem Element.length_lt_of_read {position : Nat} {text rest : List Symbol} {element : Element}
    (h : Element.read position text = .ok (element, rest)) : rest.length < text.length := by
  cases text with
  | nil => simp [Element.read] at h
  | cons c text =>
    simp only [Element.read] at h
    split at h
    · cases h; simp
    · split at h
      · have hle := length_dropWhile_le (· != .char ';') text
        split at h
        · cases h
        · next hdrop =>
          split at h
          · cases h
          · cases h
            rw [hdrop] at hle
            simp only [List.length_cons] at hle ⊢
            omega
      · cases h

theorem FieldType.length_lt_of_read {position : Nat} {text rest : List Symbol} {type : FieldType}
    (h : FieldType.read position text = .ok (type, rest)) : rest.length < text.length := by
  simp only [FieldType.read] at h
  split at h
  · split at h
    · cases h
    · next hread =>
      cases h
      exact Nat.lt_of_lt_of_le (Element.length_lt_of_read hread) (length_dropWhile_le _ _)
  · cases h

/-! ## Method descriptors -/

/-- Reads parameter types up to the closing parenthesis, and returns what follows it. -/
def readParameters (position : Nat) (text : List Symbol) :
    Except DescriptorFault (List FieldType × Nat × List Symbol) :=
  match text with
  | [] => .error .missingClosing
  | .char ')' :: rest => .ok ([], position + 1, rest)
  | c :: rest =>
    match _hread : FieldType.read position (c :: rest) with
    | .error fault => .error fault
    | .ok (type, after) =>
      match readParameters (position + type.chars.length) after with
      | .error fault => .error fault
      | .ok (types, ending) => .ok (type :: types, ending)
termination_by text.length
decreasing_by exact FieldType.length_lt_of_read _hread

/-- Reads a result type, which must end the text. -/
def readResult (position : Nat) (text : List Symbol) : Except DescriptorFault ReturnType :=
  if text = [.char voidCode] then .ok .void
  else if text = [] then .error .missingResult
  else match FieldType.read position text with
    | .error fault => .error fault
    | .ok (type, []) => .ok (.value type)
    | .ok (_, rest) => .error (.trailing rest)

/-- Reads a method descriptor. -/
def MethodDescriptor.readChars : List Symbol → Except DescriptorFault MethodDescriptor
  | .char '(' :: rest =>
    match readParameters 1 rest with
    | .error fault => .error fault
    | .ok (parameters, position, rest) =>
      match readResult position rest with
      | .error fault => .error fault
      | .ok result => .ok ⟨parameters, result⟩
  | _ => .error .missingOpening

/-- The method descriptor with this text, or what is wrong with the text. -/
def MethodDescriptor.read (text : Text) : Except DescriptorError MethodDescriptor :=
  (readChars text.toList).mapError (⟨text, ·⟩)

/-- Whether a text is a method descriptor. -/
def isMethodDescriptor (text : Text) : Bool :=
  (MethodDescriptor.read text).isOk

end CallSites
