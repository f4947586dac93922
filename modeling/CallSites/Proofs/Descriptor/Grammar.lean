/-
  CallSites.Proofs.Descriptor.Grammar

  The grammar of method descriptors, as a predicate on texts that mentions no reader. Reading
  accepts the texts of the grammar and no others, and returns the parts that the grammar names.
-/
import CallSites.Proofs.Descriptor.Reading

namespace CallSites
namespace Grammar

/-! ## The grammar -/

/-- A segment of a class name. Some characters may not occur in it. -/
def IsSegment (segment : List Symbol) : Prop :=
  segment ≠ [] ∧ ∀ c : Char, .char c ∈ segment →
    c ∉ ['/', '.', ';', '[', '(', ')', '<', '>'] ∧ Text.isBlank c = false

/-- One or more segments between slashes. -/
def IsClassName (name : List Symbol) : Prop :=
  ∃ parts, parts ≠ [] ∧ (∀ part ∈ parts, IsSegment part) ∧ name = [.char '/'].intercalate parts

/-- What may follow the brackets of a field type. -/
inductive IsElement : List Symbol → Prop where
  | primitive {c : Char} : c ∈ ['Z', 'B', 'C', 'S', 'I', 'J', 'F', 'D'] → IsElement [.char c]
  | reference {name : List Symbol} :
      IsClassName name → IsElement (.char 'L' :: (name ++ [.char ';']))

/-- At most 255 brackets before an element type. -/
def IsFieldType (text : List Symbol) : Prop :=
  ∃ dimensions element, dimensions ≤ 255 ∧ IsElement element ∧
    text = List.replicate dimensions (.char '[') ++ element

/-- A field type, or the letter for no result. -/
def IsResult (text : List Symbol) : Prop :=
  IsFieldType text ∨ text = [.char 'V']

/-- The text is a method descriptor with these texts as its parameters and result. -/
structure IsDescriptor (text : Text) (parameters : List Text) (result : Text) : Prop where
  text_eq : text = "(" ++ Text.join parameters ++ ")" ++ result
  parameters : ∀ parameter ∈ parameters, IsFieldType parameter.toList
  result : IsResult result.toList

/-! ## Texts of the grammar and values -/

theorem isSegment_iff {segment : List Symbol} :
    IsSegment segment ↔ .char '/' ∉ segment ∧ segment ≠ [] ∧ segment.all isNameChar = true := by
  have hchar : ∀ c : Char, (c ∉ ['/', '.', ';', '[', '(', ')', '<', '>'] ∧
      Text.isBlank c = false) ↔ c ≠ '/' ∧ isNameChar c = true := by
    intro c
    simp [isNameChar, and_assoc]
  simp only [IsSegment, hchar, List.all_eq_true]
  refine ⟨?_, ?_⟩
  · rintro ⟨hne, hall⟩
    refine ⟨fun hslash => (hall '/' hslash).1 rfl, hne, ?_⟩
    intro symbol hsymbol
    cases symbol with
    | char c => exact (hall c hsymbol).2
    | surrogate offset => rfl
  · rintro ⟨hslash, hne, hall⟩
    exact ⟨hne, fun c hc => ⟨fun heq => hslash (heq ▸ hc), hall c hc⟩⟩

theorem isClassName_iff {name : List Symbol} : IsClassName name ↔ IsInternalName name := by
  refine ⟨?_, ?_⟩
  · rintro ⟨parts, hne, hparts, rfl⟩ segment hsegment
    have hslash : ∀ part ∈ parts, .char '/' ∉ part :=
      fun part hpart => (isSegment_iff.mp (hparts part hpart)).1
    -- Parts without slashes are the segments of the name that they make up.
    rw [segments_intercalate hne hslash] at hsegment
    exact (isSegment_iff.mp (hparts segment hsegment)).2
  · intro hlegal
    refine ⟨segments name, segments_ne_nil name, ?_, (intercalate_segments name).symm⟩
    intro segment hsegment
    exact isSegment_iff.mpr ⟨slash_notMem_of_mem_segments hsegment, hlegal segment hsegment⟩

theorem isElement_iff {text : List Symbol} :
    IsElement text ↔ ∃ element : Element, text = element.chars := by
  refine ⟨?_, ?_⟩
  · rintro (⟨hc⟩ | ⟨hname⟩)
    · next c =>
      -- The letters of the grammar are the codes of the primitive types.
      have hcodes : ['Z', 'B', 'C', 'S', 'I', 'J', 'F', 'D'] = Primitive.all.map Primitive.code :=
        rfl
      rw [hcodes] at hc
      obtain ⟨type, -, rfl⟩ := List.mem_map.mp hc
      exact ⟨.primitive type, rfl⟩
    · next name => exact ⟨.reference ⟨name, isClassName_iff.mp hname⟩, rfl⟩
  · rintro ⟨element, rfl⟩
    cases element with
    | primitive type => exact .primitive (by cases type <;> decide)
    | reference name => exact .reference (isClassName_iff.mpr name.legal)

theorem isFieldType_iff {text : List Symbol} :
    IsFieldType text ↔ ∃ type : FieldType, text = type.chars := by
  refine ⟨?_, ?_⟩
  · rintro ⟨dimensions, _, hle, helement, rfl⟩
    obtain ⟨element, rfl⟩ := isElement_iff.mp helement
    exact ⟨⟨dimensions, element, hle⟩, rfl⟩
  · rintro ⟨type, rfl⟩
    exact ⟨type.dimensions, type.element.chars, type.dimensions_le,
      isElement_iff.mpr ⟨type.element, rfl⟩, rfl⟩

theorem isResult_iff {text : List Symbol} :
    IsResult text ↔ ∃ result : ReturnType, text = result.chars := by
  rw [IsResult, isFieldType_iff]
  refine ⟨?_, ?_⟩
  · rintro (⟨type, rfl⟩ | rfl)
    · exact ⟨.value type, rfl⟩
    · exact ⟨.void, rfl⟩
  · rintro ⟨result, rfl⟩
    cases result with
    | void => exact Or.inr rfl
    | value type => exact Or.inl ⟨type, rfl⟩

/-- Texts of field types are the texts of a list of field types. -/
theorem exists_types_of_isFieldType {parameters : List Text}
    (h : ∀ parameter ∈ parameters, IsFieldType parameter.toList) :
    ∃ types : List FieldType, types.map FieldType.text = parameters := by
  induction parameters with
  | nil => exact ⟨[], rfl⟩
  | cons parameter parameters ih =>
    obtain ⟨types, rfl⟩ := ih fun p hp => h p (List.mem_cons_of_mem _ hp)
    obtain ⟨type, htype⟩ := isFieldType_iff.mp (h parameter List.mem_cons_self)
    refine ⟨type :: types, ?_⟩
    rw [List.map_cons, FieldType.text, ← htype, Text.ofList_toList]

/-- The grammar and the values name the same texts with the same parts. -/
theorem isDescriptor_iff {text : Text} {parameters : List Text} {result : Text} :
    IsDescriptor text parameters result ↔
      ∃ descriptor : MethodDescriptor, text = descriptor.text ∧
        descriptor.parameters.map FieldType.text = parameters ∧
        descriptor.result.text = result := by
  refine ⟨?_, ?_⟩
  · rintro ⟨rfl, hparameters, hresult⟩
    obtain ⟨types, rfl⟩ := exists_types_of_isFieldType hparameters
    obtain ⟨type, htype⟩ := isResult_iff.mp hresult
    have hresult' : type.text = result := by
      rw [ReturnType.text, ← htype, Text.ofList_toList]
    refine ⟨⟨types, type⟩, ?_, rfl, hresult'⟩
    rw [MethodDescriptor.text_eq_join, hresult']
  · rintro ⟨descriptor, rfl, rfl, rfl⟩
    refine ⟨descriptor.text_eq_join, ?_, ?_⟩
    · intro parameter hparameter
      obtain ⟨type, -, rfl⟩ := List.mem_map.mp hparameter
      exact isFieldType_iff.mpr ⟨type, by simp [FieldType.text]⟩
    · exact isResult_iff.mpr ⟨descriptor.result, by simp [ReturnType.text]⟩

end Grammar

/-! ## Splitting a text -/

namespace MethodDescriptor

/-- The texts of the parameters and of the result. -/
def parts (descriptor : MethodDescriptor) : List Text × Text :=
  (descriptor.parameters.map FieldType.text, descriptor.result.text)

/-- Splits a text into the texts of the parameters and of the result. -/
def split (text : Text) : Except DescriptorError (List Text × Text) :=
  (read text).map parts

theorem split_eq_ok_iff {text : Text} {parameters : List Text} {result : Text} :
    split text = .ok (parameters, result) ↔ Grammar.IsDescriptor text parameters result := by
  rw [Grammar.isDescriptor_iff]
  refine ⟨?_, ?_⟩
  · intro h
    unfold split at h
    cases hread : read text with
    | error error => rw [hread] at h; cases h
    | ok descriptor =>
      rw [hread] at h
      cases h
      exact ⟨descriptor, read_eq_ok_iff.mp hread, rfl, rfl⟩
  · rintro ⟨descriptor, rfl, rfl, rfl⟩
    simp [split, parts, Except.map]

theorem split_eq_error_iff {text : Text} {error : DescriptorError} :
    split text = .error error ↔ read text = .error error := by
  unfold split
  cases read text <;> simp [Except.map]

theorem isMethodDescriptor_iff_split {text : Text} :
    isMethodDescriptor text = true ↔
      ∃ parameters result, split text = .ok (parameters, result) := by
  rw [isMethodDescriptor_iff]
  unfold split
  cases read text <;> simp [Except.map, parts]

theorem isMethodDescriptor_iff_isDescriptor {text : Text} :
    isMethodDescriptor text = true ↔
      ∃ parameters result, Grammar.IsDescriptor text parameters result := by
  simp only [isMethodDescriptor_iff_split, split_eq_ok_iff]

/-- Splitting accepts the texts of the grammar, returns the parts that the grammar names, which are
    the only ones, and refuses every other text by an error that names that text. -/
theorem split_accepts_exactly_grammar (text : Text) :
    (∀ parameters result,
      split text = .ok (parameters, result) ↔ Grammar.IsDescriptor text parameters result) ∧
    (∀ parameters result parameters' result',
      Grammar.IsDescriptor text parameters result →
      Grammar.IsDescriptor text parameters' result' →
      parameters = parameters' ∧ result = result') ∧
    ((∃ fault, split text = .error ⟨text, fault⟩) ↔
      ¬ ∃ parameters result, Grammar.IsDescriptor text parameters result) ∧
    (isMethodDescriptor text = true ↔
      ∃ parameters result, Grammar.IsDescriptor text parameters result) := by
  simp only [← split_eq_ok_iff]
  refine ⟨fun _ _ => trivial, ?_, ?_, isMethodDescriptor_iff_split⟩
  · intro parameters result parameters' result' h h'
    rw [h] at h'
    cases h'
    exact ⟨rfl, rfl⟩
  · refine ⟨?_, ?_⟩
    · rintro ⟨fault, hfault⟩ ⟨parameters, result, hok⟩
      rw [hfault] at hok
      cases hok
    · intro hnone
      -- Splitting fails where reading does, and reading names the text that it refuses.
      have hread : ∀ descriptor, read text ≠ .ok descriptor := by
        intro descriptor hok
        exact hnone ⟨_, _, by rw [split, hok]; rfl⟩
      obtain ⟨fault, hfault⟩ := exists_read_eq_error hread
      exact ⟨fault, split_eq_error_iff.mpr hfault⟩

/-- A text whose parts are told apart: an array, a class and no result. -/
theorem split_accepts_exactly_grammar_array :
    Grammar.IsDescriptor "([[ILa/b;)V" ["[[I", "La/b;"] "V" ∧
      ∀ parameters result, Grammar.IsDescriptor "([[ILa/b;)V" parameters result →
        (["[[I", "La/b;"] : List Text) = parameters ∧ "V" = result := by
  have hsplit : split "([[ILa/b;)V" = .ok (["[[I", "La/b;"], "V") := by cbv
  have hdescriptor := ((split_accepts_exactly_grammar "([[ILa/b;)V").1 _ _).mp hsplit
  exact ⟨hdescriptor, fun parameters result =>
    (split_accepts_exactly_grammar "([[ILa/b;)V").2.1 _ _ parameters result hdescriptor⟩

end MethodDescriptor

end CallSites
