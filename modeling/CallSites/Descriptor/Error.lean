/-
  CallSites.Descriptor.Error

  Why a type name or a method descriptor is malformed.
-/
import CallSites.Descriptor.Basic
import CallSites.Text.Quoted

namespace CallSites

/-- What is wrong with a type name or a descriptor. -/
inductive DescriptorFault where
  | emptyTypeName
  /-- A type name with this many array dimensions. -/
  | dimensionsExceeded (count : Nat)
  /-- `void` as a parameter, as an array element or where a field type is due. -/
  | misplacedVoid
  | emptySegment
  | illegalSegment (segment : List Symbol)
  /-- One text in place of a list of type names. -/
  | parametersAsText
  | missingOpening
  | missingClosing
  | missingResult
  /-- Text after a complete descriptor. -/
  | trailing (rest : List Symbol)
  /-- A descriptor with too many array dimensions. -/
  | dimensionsOverrun
  | truncatedType
  | unterminatedReference
  | unexpected (c : Symbol) (position : Nat)
  deriving DecidableEq, Repr

/-- The fault in words. -/
def DescriptorFault.reason : DescriptorFault → String
  | .emptyTypeName => "empty type name"
  | .dimensionsExceeded count =>
    toString count ++ " array dimensions exceed maximum " ++ toString maxDimensions
  | .misplacedVoid => "void is only allowed as a method return type"
  | .emptySegment => "empty class name segment"
  | .illegalSegment segment =>
    "illegal character in class name segment " ++ Text.quote (.ofList segment)
  | .parametersAsText => "parameter_types must be a sequence of type names, not a string"
  | .missingOpening => "must start with '('"
  | .missingClosing => "missing ')'"
  | .missingResult => "missing return type"
  | .trailing rest => "unexpected trailing characters " ++ Text.quote (.ofList rest)
  | .dimensionsOverrun => "more than " ++ toString maxDimensions ++ " array dimensions"
  | .truncatedType => "truncated type"
  | .unterminatedReference => "reference type missing ';'"
  | .unexpected c position =>
    "unexpected character " ++ Text.quote (.ofList [c]) ++ " at position " ++
      toString position

/-- A malformed text and what is wrong with it. -/
structure DescriptorError where
  descriptor : Text
  fault : DescriptorFault
  deriving DecidableEq, Repr

/-- The error in words. -/
def DescriptorError.message (error : DescriptorError) : String :=
  "invalid descriptor " ++ Text.quote error.descriptor ++ ": " ++ error.fault.reason

/-! ## Checking class names -/

/-- The fault of the first segment that is none. -/
def firstBadSegment? : List (List Symbol) → Option DescriptorFault
  | [] => none
  | segment :: rest =>
    if segment = [] then some .emptySegment
    else if segment.all isNameChar then firstBadSegment? rest
    else some (.illegalSegment segment)

theorem firstBadSegment?_eq_none_iff {parts : List (List Symbol)} :
    firstBadSegment? parts = none ↔
      ∀ segment ∈ parts, segment ≠ [] ∧ segment.all isNameChar = true := by
  induction parts with
  | nil => simp [firstBadSegment?]
  | cons part parts ih =>
    rw [List.forall_mem_cons, ← ih, firstBadSegment?]
    by_cases hempty : part = []
    · simp [hempty]
    · by_cases hchars : part.all isNameChar = true
      · rw [if_neg hempty, if_pos hchars]
        exact ⟨fun h => ⟨⟨hempty, hchars⟩, h⟩, And.right⟩
      · rw [if_neg hempty, if_neg hchars]
        exact ⟨nofun, fun h => absurd h.1.2 hchars⟩

/-- The internal class name with this text, or what is wrong with the text. -/
def InternalName.ofChars (text : List Symbol) : Except DescriptorFault InternalName :=
  match h : firstBadSegment? (segments text) with
  | none => .ok ⟨text, firstBadSegment?_eq_none_iff.1 h⟩
  | some fault => .error fault

end CallSites
