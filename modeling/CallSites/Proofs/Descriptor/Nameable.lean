/-
  CallSites.Proofs.Descriptor.Nameable

  Which descriptors have names. Every type is written by some type name, except an array of a class
  that is called like a primitive type: with brackets behind it such a name is read as the word, and
  a handle stands for the class alone. Where no class is called like that, no handle is needed.
-/
import CallSites.Proofs.Descriptor.Meaning

namespace CallSites

/-! ## Names in descriptors -/

/-- The text of a class with array dimensions in front of it. -/
def classText (dimensions : Nat) (name : Text) : Text :=
  .ofList (List.replicate dimensions (.char '[') ++ .char 'L' :: (name.toList ++ [.char ';']))

/-- The text is of a class that is called like a primitive type, or of an array of it. -/
def IsWordClass (text : Text) : Prop :=
  ∃ dimensions, ∃ word ∈ primitiveWords, text = classText dimensions word

/-- The text is of an array of a class that is called like a primitive type. -/
def IsWordArray (text : Text) : Prop :=
  ∃ dimensions, 0 < dimensions ∧ ∃ word ∈ primitiveWords, text = classText dimensions word

theorem dimensions_eq_of_append_eq {m n : Nat} {left right : List Symbol}
    (hleft : left.head? ≠ some (.char '[')) (hright : right.head? ≠ some (.char '['))
    (h : List.replicate m (.char '[') ++ left = List.replicate n (.char '[') ++ right) :
    m = n ∧ left = right := by
  induction m generalizing n with
  | zero =>
    cases n with
    | zero => exact ⟨rfl, h⟩
    | succ n =>
      have hcons : left = .char '[' :: (List.replicate n (.char '[') ++ right) := h
      exact absurd (congrArg List.head? hcons) hleft
  | succ m ih =>
    cases n with
    | zero =>
      have hcons : right = .char '[' :: (List.replicate m (.char '[') ++ left) := h.symm
      exact absurd (congrArg List.head? hcons) hright
    | succ n =>
      obtain ⟨rfl, hrest⟩ := ih (List.cons.inj h).2
      exact ⟨rfl, hrest⟩

/-- A type whose text is that of a class is of that class. -/
theorem ReturnType.eq_of_text_eq_classText {type : ReturnType} {dimensions : Nat} {name : Text}
    (h : type.text = classText dimensions name) :
    ∃ internal hle, internal.chars = name.toList ∧
      type = .value ⟨dimensions, .reference internal, hle⟩ := by
  have hchars : type.chars =
      List.replicate dimensions (.char '[') ++ .char 'L' :: (name.toList ++ [.char ';']) :=
    congrArg Text.toList h
  rcases type with _ | ⟨count, element, hle⟩
  · cases dimensions <;> simp [ReturnType.chars, voidCode, List.replicate_succ] at hchars
  · obtain ⟨c, tail, hcons, hbracket, -⟩ := element.exists_chars_eq_cons
    have hhead : element.chars.head? ≠ some (.char '[') := by simp [hcons, hbracket]
    obtain ⟨rfl, helement⟩ := dimensions_eq_of_append_eq hhead (by simp) hchars
    cases element with
    | primitive primitive => cases primitive <;> simp [Element.chars, Primitive.code] at helement
    | reference internal => exact ⟨internal, hle, by simpa [Element.chars] using helement, rfl⟩

/-! ## Spellings -/

/-- How a type is spelled, given its text: by a word or by a class name with dots, and one pair of
    brackets for each array dimension. -/
inductive Spells : Text → Text → Prop where
  | void : Spells voidWord (.ofList [.char voidCode])
  | primitive (type : Primitive) (dimensions : Nat) :
      Spells (type.word ++ brackets dimensions)
        (.ofList (List.replicate dimensions (.char '[') ++ [.char type.code]))
  | cls (name : Text) (dimensions : Nat) :
      Spells (toCanonicalName name ++ brackets dimensions) (classText dimensions name)

/-- The spelling of a type. -/
def ReturnType.spelling : ReturnType → Text
  | .void => voidWord
  | .value ⟨dimensions, .primitive type, _⟩ => type.word ++ brackets dimensions
  | .value ⟨dimensions, .reference name, _⟩ =>
    toCanonicalName (Text.ofList name.chars) ++ brackets dimensions

theorem ReturnType.spells_spelling (type : ReturnType) : Spells type.spelling type.text := by
  rcases type with _ | ⟨dimensions, type | name, hle⟩
  · exact .void
  · exact .primitive type dimensions
  · have htext : (ReturnType.value ⟨dimensions, .reference name, hle⟩).text =
        classText dimensions (Text.ofList name.chars) := by
      simp [ReturnType.text, ReturnType.chars, FieldType.chars, Element.chars, classText]
    rw [htext]
    exact .cls _ dimensions

/-- A class name in a descriptor has slashes only. -/
theorem toInternalName_chars (name : InternalName) :
    toInternalName (Text.ofList name.chars) = Text.ofList name.chars := by
  rw [toInternalName, NameFormat.normalize_eq_self_iff, Text.toList_ofList]
  exact name.notMem_chars (by decide) (by decide)

theorem ofChars_toInternalName_toCanonicalName (name : InternalName) :
    InternalName.ofChars
      (toInternalName (toCanonicalName (Text.ofList name.chars))).toList = .ok name := by
  rw [toInternalName, toCanonicalName, NameFormat.normalize_normalize, ← toInternalName,
    toInternalName_chars, Text.toList_ofList]
  exact name.ofChars_chars

/-- A class name holds no bracket, so it stays a base when it is spelled with dots. -/
theorem isBase_toCanonicalName (name : InternalName) :
    IsBase (toCanonicalName (Text.ofList name.chars)) := by
  apply IsBase.normalize
  rintro ⟨front, hfront⟩
  rw [Text.toList_ofList] at hfront
  have hmem : .char '[' ∈ name.chars := by simp [← hfront]
  exact name.notMem_chars (by decide) (by decide) hmem

/-- Respelling makes no primitive word of any other name. -/
theorem normalize_mem_primitiveWords_iff {format : NameFormat} {text : Text} :
    format.normalize text ∈ primitiveWords ↔ text ∈ primitiveWords := by
  have hbase := Base.ofText_normalize format text
  unfold Base.ofText at hbase
  by_cases hnormal : format.normalize text ∈ primitiveWords <;>
    by_cases htext : text ∈ primitiveWords <;> simp_all

/-! ## Types with names -/

/-- A type of no class that is called like a primitive type is what its spelling stands for. -/
theorem toReturnType_spelling {type : ReturnType} (h : ¬ IsWordClass type.text) :
    (TypeName.written type.spelling).toReturnType = .ok type := by
  rcases type with _ | ⟨dimensions, type | name, hle⟩
  · rfl
  · have hbase : IsBase type.word := by cases type <;> decide
    rw [ReturnType.spelling, TypeName.toReturnType_base_brackets hbase, mapError_eq_ok_iff,
      typeOfBase_eq_ok_iff]
    exact .primitive hle
  · rw [ReturnType.spelling, TypeName.toReturnType_base_brackets (isBase_toCanonicalName name),
      mapError_eq_ok_iff, typeOfBase_eq_ok_iff]
    refine .reference hle ?_ (ofChars_toInternalName_toCanonicalName name)
    rw [toCanonicalName, normalize_mem_primitiveWords_iff]
    intro hword
    exact h ⟨dimensions, _, hword, by
      simp [ReturnType.text, ReturnType.chars, FieldType.chars, Element.chars, classText]⟩

/-- A class has a handle, whatever it is called. -/
theorem exists_handle (name : InternalName) (hle : 0 ≤ maxDimensions) :
    ∃ cls : ClassHandle, (TypeName.handle cls).toReturnType =
      .ok (.value ⟨0, .reference name, hle⟩) := by
  have hinternal : internalName (Text.ofList name.chars) = .ok name := by
    rw [internalName, toInternalName_chars, Text.toList_ofList, name.ofChars_chars]
    rfl
  exact ⟨⟨_, name, hinternal⟩, rfl⟩

/-- Before brackets a primitive word is no class, and without brackets there is no array. -/
theorem TypeName.not_means_wordArray {name : TypeName} {word : Text} {dimensions : Nat}
    (hword : word ∈ primitiveWords) (hpos : 0 < dimensions) :
    ¬ name.Means ⟨.cls word, dimensions⟩ := by
  intro hmeans
  generalize hmeaning : (⟨.cls word, dimensions⟩ : Meaning) = meaning at hmeans
  cases hmeans with
  | handle =>
    cases hmeaning
    cases hpos
  | @written base dimensions' hbase =>
    obtain ⟨hcls, -⟩ := Meaning.mk.inj hmeaning
    rw [Base.ofText] at hcls
    split at hcls
    · cases hcls
    · next hnot =>
      rw [Base.cls.inj hcls, toInternalName, normalize_mem_primitiveWords_iff] at hword
      exact hnot hword

/-- A type has a name exactly if it is no array of a class that is called like a primitive type. -/
theorem exists_toReturnType_iff {type : ReturnType} :
    (∃ name : TypeName, name.toReturnType = .ok type) ↔ ¬ IsWordArray type.text := by
  refine ⟨?_, ?_⟩
  · rintro ⟨name, hname⟩ ⟨dimensions, hpos, word, hword, htext⟩
    obtain ⟨internal, hle, hchars, rfl⟩ := type.eq_of_text_eq_classText htext
    have hmeans := means_of_toReturnType hname
    rw [ReturnType.meaning, hchars, Text.ofList_toList] at hmeans
    exact TypeName.not_means_wordArray hword hpos hmeans
  · intro harray
    by_cases hclass : IsWordClass type.text
    -- Only a class by itself is left, and that has a handle.
    · obtain ⟨dimensions, word, hword, htext⟩ := hclass
      obtain ⟨internal, hle, -, rfl⟩ := type.eq_of_text_eq_classText htext
      obtain rfl : dimensions = 0 := by
        by_contra hne
        exact harray ⟨dimensions, Nat.pos_of_ne_zero hne, word, hword, htext⟩
      obtain ⟨cls, hcls⟩ := exists_handle internal hle
      exact ⟨_, hcls⟩
    · exact ⟨_, toReturnType_spelling hclass⟩

/-! ## Descriptors with names -/

namespace MethodDescriptor

theorem exists_ofTypeNames_iff {descriptor : MethodDescriptor} :
    (∃ names name, ofTypeNames names name = .ok descriptor) ↔
      (∀ type ∈ descriptor.parameters, ¬ IsWordArray type.text) ∧
        ¬ IsWordArray descriptor.result.text := by
  have hfield : ∀ type : FieldType,
      (∃ name : TypeName, name.toFieldType = .ok type) ↔ ¬ IsWordArray type.text := by
    intro type
    simp only [TypeName.toFieldType_eq_ok_iff]
    exact exists_toReturnType_iff
  simp only [ofTypeNames_eq_ok_iff, exists_and_left, exists_and_right, exists_forall₂_iff, hfield,
    exists_toReturnType_iff]

/-- Where no class is called like a primitive type, the spellings of the types stand for them. -/
theorem ofTypeNames_spelling {descriptor : MethodDescriptor}
    (hparameters : ∀ type ∈ descriptor.parameters, ¬ IsWordClass type.text)
    (hresult : ¬ IsWordClass descriptor.result.text) :
    ofTypeNames
        ((descriptor.parameters.map fun type => (ReturnType.value type).spelling).map .written)
        (.written descriptor.result.spelling) = .ok descriptor := by
  refine ofTypeNames_eq_ok_iff.mpr ⟨?_, toReturnType_spelling hresult⟩
  rw [List.map_map, List.forall₂_map_left_iff, List.forall₂_same]
  intro type htype
  exact TypeName.toFieldType_eq_ok_iff.mpr (toReturnType_spelling (hparameters type htype))

/-- A descriptor is derived from names of types exactly if none of its parts is an array of a class
    that is called like a primitive type. If none is such a class either, it is derived from the
    spellings of its parts, and no handle is needed. -/
theorem named_unless_array_of_word_class {text result : Text} {parameters : List Text}
    (h : split text = .ok (parameters, result)) :
    ((∃ names name descriptor, ofTypeNames names name = .ok descriptor ∧
        descriptor.text = text) ↔
      ∀ part ∈ parameters ++ [result], ¬ IsWordArray part) ∧
    ((∀ part ∈ parameters ++ [result], ¬ IsWordClass part) →
      ∃ (names : List Text) (name : Text),
        List.Forall₂ Spells names parameters ∧ Spells name result ∧
        ∃ descriptor, ofTypeNames (names.map .written) (.written name) = .ok descriptor ∧
          descriptor.text = text) := by
  obtain ⟨descriptor, rfl, rfl, rfl⟩ := Grammar.isDescriptor_iff.mp (split_eq_ok_iff.mp h)
  simp only [List.forall_mem_append, List.forall_mem_singleton, List.forall_mem_map]
  refine ⟨?_, ?_⟩
  · rw [← exists_ofTypeNames_iff]
    refine exists_congr fun names => exists_congr fun name => ⟨?_, ?_⟩
    · rintro ⟨derived, hderived, htext⟩
      rw [← text_injective htext]
      exact hderived
    · intro hderived
      exact ⟨descriptor, hderived, rfl⟩
  · rintro ⟨hparameters, hresult⟩
    refine ⟨_, _, ?_, descriptor.result.spells_spelling, descriptor,
      ofTypeNames_spelling hparameters hresult, rfl⟩
    rw [List.forall₂_map_left_iff, List.forall₂_map_right_iff, List.forall₂_same]
    exact fun type _ => (ReturnType.value type).spells_spelling

/-- An array of a class called `int` has no name, and the primitive type has a spelling. -/
theorem named_unless_array_of_word_class_int :
    split "([Lint;)V" = .ok (["[Lint;"], "V") ∧
    (¬ ∃ names name descriptor, ofTypeNames names name = .ok descriptor ∧
      descriptor.text = "([Lint;)V") ∧
    split "(I)V" = .ok (["I"], "V") ∧
    ∃ (names : List Text) (name : Text), List.Forall₂ Spells names ["I"] ∧ Spells name "V" ∧
      ∃ descriptor, ofTypeNames (names.map .written) (.written name) = .ok descriptor ∧
        descriptor.text = "(I)V" := by
  have harray : split "([Lint;)V" = .ok (["[Lint;"], "V") := by cbv
  have hplain : split "(I)V" = .ok (["I"], "V") := by cbv
  have hletter : ∀ part ∈ (["I"] ++ ["V"] : List Text), ¬ IsWordClass part := by
    rintro part hpart ⟨dimensions, word, -, rfl⟩
    have hchars : (classText dimensions word).toList = [.char 'I'] ∨
        (classText dimensions word).toList = [.char 'V'] := by
      simpa [← Text.toList_inj] using hpart
    cases dimensions <;> simp [classText, List.replicate_succ] at hchars
  refine ⟨harray, ?_, hplain, (named_unless_array_of_word_class hplain).2 hletter⟩
  rw [(named_unless_array_of_word_class harray).1]
  intro hnone
  exact hnone "[Lint;" (by simp) ⟨1, Nat.one_pos, "int", by decide, rfl⟩

end MethodDescriptor

end CallSites
