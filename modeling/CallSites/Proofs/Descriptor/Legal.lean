/-
  CallSites.Proofs.Descriptor.Legal

  Which type names are legal. A name is a base and a number of pairs of brackets, and these two
  decide whether it is encoded and how, or what is wrong with it. Spelling a class name differently
  makes no difference to that. A list of names fails where the first of them does.
-/
import CallSites.Proofs.Descriptor.Nameable

namespace CallSites

/-! ## Encoding -/

/-- The text of a type, where `void` may be none. -/
def ReturnType.encoded (allowVoid : Bool) : ReturnType → Except DescriptorFault Text
  | .void => if allowVoid then .ok ReturnType.void.text else .error .misplacedVoid
  | .value type => .ok type.text

/-- The text that a base with so many pairs of brackets stands for, or what is wrong with it. -/
def encodedBase (allowVoid : Bool) (base : Text) (count : Nat) : Except DescriptorFault Text :=
  typeOfBase base.toList count >>= ReturnType.encoded allowVoid

namespace TypeName

/-- The text that a name stands for, as a result or as a parameter. Only a result may be `void`. -/
def encoded (allowVoid : Bool) (name : TypeName) : Except DescriptorError Text :=
  if allowVoid then name.resultText else name.fieldText

theorem encoded_eq (allowVoid : Bool) (name : TypeName) :
    name.encoded allowVoid = name.toReturnType >>= fun type =>
      (type.encoded allowVoid).mapError (⟨name.text, ·⟩) := by
  unfold encoded resultText fieldText toFieldType
  cases name.toReturnType with
  | error error => cases allowVoid <;> rfl
  | ok type => cases allowVoid <;> cases type <;> rfl

/-- The base and the brackets decide, and the whole name is reported. -/
theorem encoded_base_brackets {base : Text} (h : IsBase base) (count : Nat) (allowVoid : Bool) :
    (written (base ++ brackets count)).encoded allowVoid =
      (encodedBase allowVoid base count).mapError (⟨base ++ brackets count, ·⟩) := by
  rw [encoded_eq, toReturnType_base_brackets h, encodedBase]
  cases typeOfBase base.toList count <;> rfl

end TypeName

/-! ## Codes -/

/-- The words for primitive types, with their letters. -/
def primitiveLetters : List (String × String) :=
  [("boolean", "Z"), ("byte", "B"), ("char", "C"), ("short", "S"), ("int", "I"), ("long", "J"),
    ("float", "F"), ("double", "D")]

/-- The code of a base that has one. -/
inductive HasCode (allowVoid : Bool) : Text → Nat → Text → Prop where
  | primitive {word letter : String} (count : Nat) :
      (word, letter) ∈ primitiveLetters → HasCode allowVoid word count letter
  /-- `void`, by itself and where it is allowed. -/
  | void : allowVoid = true → HasCode allowVoid "void" 0 "V"
  /-- Any other name, if it is made of legal segments. -/
  | cls {base : Text} (count : Nat) :
      base ∉ primitiveWords → Grammar.IsClassName (toInternalName base).toList →
      HasCode allowVoid base count ("L" ++ toInternalName base ++ ";")

/-- A legal base and its brackets, with the text that they are encoded as. -/
structure IsEncoded (allowVoid : Bool) (base : Text) (count : Nat) (text : Text) : Prop where
  nonempty : base ≠ ""
  count_le : count ≤ 255
  code : ∃ code, HasCode allowVoid base count code ∧
    text = Text.ofList (List.replicate count (.char '[')) ++ code

variable {allowVoid : Bool} {base text : Text} {count : Nat}

theorem mem_primitiveLetters_iff {word letter : String} :
    (word, letter) ∈ primitiveLetters ↔
      ∃ type : Primitive, type.word = word ∧ String.singleton type.code = letter := by
  have hletters : primitiveLetters =
      Primitive.all.map fun type => (type.word, String.singleton type.code) := by decide
  rw [hletters, List.mem_map]
  refine ⟨?_, ?_⟩
  · rintro ⟨type, -, hpair⟩
    exact ⟨type, Prod.mk.inj hpair⟩
  · rintro ⟨type, rfl, rfl⟩
    exact ⟨type, by cases type <;> decide, rfl⟩

theorem isClassName_iff_exists_ofChars {name : Text} :
    Grammar.IsClassName name.toList ↔
      ∃ internal, InternalName.ofChars name.toList = .ok internal := by
  rw [Grammar.isClassName_iff]
  refine ⟨?_, ?_⟩
  · intro h
    exact ⟨⟨_, h⟩, InternalName.ofChars_eq_ok_iff.mpr rfl⟩
  · rintro ⟨internal, hinternal⟩
    rw [InternalName.ofChars_eq_ok_iff.mp hinternal]
    exact internal.legal

theorem text_primitive (type : Primitive) {hle : count ≤ maxDimensions} :
    FieldType.text ⟨count, .primitive type, hle⟩ =
      Text.ofList (List.replicate count (.char '[')) ++ String.singleton type.code := by
  apply Text.toList_injective
  simp [FieldType.text, FieldType.chars, Element.chars]

theorem text_reference {name : InternalName} {hle : count ≤ maxDimensions}
    (hname : InternalName.ofChars (toInternalName base).toList = .ok name) :
    FieldType.text ⟨count, .reference name, hle⟩ =
      Text.ofList (List.replicate count (.char '[')) ++ ("L" ++ toInternalName base ++ ";") := by
  apply Text.toList_injective
  simp [FieldType.text, FieldType.chars, Element.chars, InternalName.ofChars_eq_ok_iff.mp hname]

/-- Exactly the legal bases are encoded, each as its code after the brackets. -/
theorem encodedBase_eq_ok_iff :
    encodedBase allowVoid base count = .ok text ↔ IsEncoded allowVoid base count text := by
  rw [encodedBase, bind_eq_ok_iff]
  simp only [typeOfBase_eq_ok_iff]
  refine ⟨?_, ?_⟩
  -- Each form of a base has its own code, and `void` has one only where it is allowed.
  · rintro ⟨type, hbase, htext⟩
    cases hbase with
    | void =>
      cases allowVoid with
      | false => cases htext
      | true =>
        cases htext
        exact ⟨by decide, Nat.zero_le _, _, .void rfl, rfl⟩
    | @primitive type _ hle =>
      cases htext
      have hletter := mem_primitiveLetters_iff.mpr ⟨type, rfl, rfl⟩
      refine ⟨?_, hle, _, .primitive count hletter, text_primitive type⟩
      cases type <;> decide
    | @reference _ _ name hle hword hname =>
      cases htext
      have hlegal := isClassName_iff_exists_ofChars.mpr ⟨name, hname⟩
      refine ⟨?_, hle, _, .cls count hword hlegal, text_reference hname⟩
      rintro rfl
      have hchars := InternalName.ofChars_eq_ok_iff.mp hname
      rw [toInternalName, NameFormat.toList_normalize] at hchars
      exact name.chars_ne_nil hchars.symm
  · rintro ⟨-, hle, code, hcode, rfl⟩
    cases hcode with
    | primitive count hletter =>
      obtain ⟨type, rfl, rfl⟩ := mem_primitiveLetters_iff.mp hletter
      exact ⟨_, .primitive hle, congrArg Except.ok (text_primitive type)⟩
    | void hallow =>
      subst hallow
      exact ⟨_, .void, rfl⟩
    | cls count hword hlegal =>
      obtain ⟨name, hname⟩ := isClassName_iff_exists_ofChars.mp hlegal
      exact ⟨_, .reference hle hword hname, congrArg Except.ok (text_reference hname)⟩

/-! ## Spellings -/

/-- A base that is no word is a class name, which is looked at with slashes. -/
theorem typeOfBase_of_notMem (hword : base ∉ primitiveWords) :
    typeOfBase base.toList count =
      if base.toList = [] then .error .emptyTypeName
      else if h : count ≤ maxDimensions then
        (InternalName.ofChars (toInternalName base).toList).map fun name =>
          .value ⟨count, .reference name, h⟩
      else .error (.dimensionsExceeded count) := by
  have hvoid : base.toList ≠ (voidWord : Text).toList := by
    intro heq
    rw [Text.toList_injective heq] at hword
    exact hword (by decide)
  have hnone : Primitive.ofWord? base = none := by
    cases hprimitive : Primitive.ofWord? base with
    | none => rfl
    | some type =>
      rw [← Primitive.word_of_ofWord? hprimitive] at hword
      exact absurd type.word_mem_primitiveWords hword
  simp only [typeOfBase, hvoid, if_false, Text.ofList_toList, hnone, toInternalName,
    NameFormat.toList_normalize]
  cases InternalName.ofChars (base.toList.map (Symbol.mapChar NameFormat.internal.respell)) <;> rfl

theorem typeOfBase_normalize (format : NameFormat) (base : Text) (count : Nat) :
    typeOfBase (format.normalize base).toList count = typeOfBase base.toList count := by
  by_cases hword : base ∈ primitiveWords
  -- A word has no separator, so there is nothing to respell.
  · have hself : format.normalize base = base := by
      rw [NameFormat.normalize_eq_self_iff]
      exact separator_notMem_of_mem_primitiveWords hword format.other
    rw [hself]
  · have hword' : format.normalize base ∉ primitiveWords :=
      fun h => hword (normalize_mem_primitiveWords_iff.mp h)
    have hnil : (format.normalize base).toList = [] ↔ base.toList = [] := by
      rw [NameFormat.toList_normalize, List.map_eq_nil_iff]
    have hinternal : toInternalName (format.normalize base) = toInternalName base :=
      NameFormat.normalize_normalize _ _ base
    rw [typeOfBase_of_notMem hword', typeOfBase_of_notMem hword, hinternal]
    simp only [hnil]

namespace TypeName

/-- What is wrong with a name does not depend on its spelling, and neither does its text. -/
theorem encoded_normalize (format : NameFormat) (allowVoid : Bool) (name : Text) :
    ((written (format.normalize name)).encoded allowVoid).mapError DescriptorError.fault =
      ((written name).encoded allowVoid).mapError DescriptorError.fault := by
  obtain ⟨base, count, hbase, rfl⟩ := exists_base_brackets name
  have hsame : encodedBase allowVoid (format.normalize base) count =
      encodedBase allowVoid base count := by
    rw [encodedBase, encodedBase, typeOfBase_normalize]
  rw [NameFormat.normalize_append, normalize_brackets, encoded_base_brackets hbase,
    encoded_base_brackets (hbase.normalize format), hsame]
  cases encodedBase allowVoid base count <;> rfl

end TypeName

/-! ## Lists of names -/

namespace MethodDescriptor

variable {parameters before after : List TypeName} {result name : TypeName}
  {error : DescriptorError}

/-- Processing the parameters stops at the leftmost that fails. -/
theorem ofTypeNames_of_stopsAt {types : List FieldType}
    (h : StopsAt TypeName.toFieldType parameters before types name error) :
    ofTypeNames parameters result = .error error := by
  rw [ofTypeNames, mapM_of_stopsAt h]

theorem exists_types (h : ∀ name ∈ parameters, ∃ text, name.encoded false = .ok text) :
    ∃ types, List.Forall₂ (fun name type => TypeName.toFieldType name = .ok type) parameters
      types := by
  refine exists_forall₂_of_ok fun name hmem => ?_
  obtain ⟨text, htext⟩ := h name hmem
  obtain ⟨type, htype, -⟩ := map_eq_ok_iff.mp htext
  exact ⟨type, htype⟩

theorem ofTypeNames_eq_error_of_parameter
    (hbefore : ∀ name ∈ before, ∃ text, name.encoded false = .ok text)
    (hname : name.encoded false = .error error) :
    ofTypeNames (before ++ name :: after) result = .error error := by
  obtain ⟨types, htypes⟩ := exists_types hbefore
  exact ofTypeNames_of_stopsAt ⟨⟨after, rfl⟩, htypes, map_eq_error_iff.mp hname⟩

/-- If all parameters have types, the result is reported. -/
theorem ofTypeNames_eq_error_of_result
    (hparameters : ∀ name ∈ parameters, ∃ text, name.encoded false = .ok text)
    (hresult : result.encoded true = .error error) :
    ofTypeNames parameters result = .error error := by
  obtain ⟨types, htypes⟩ := exists_types hparameters
  have htype : result.toReturnType = .error error := map_eq_error_iff.mp hresult
  rw [ofTypeNames, mapM_eq_ok_iff.mpr htypes, htype]

/-- Deriving a descriptor fails exactly if one of the names does. -/
theorem exists_ofTypeNames_error_iff :
    (∃ error, ofTypeNames parameters result = .error error) ↔
      (∃ name ∈ parameters, ∃ error, name.encoded false = .error error) ∨
        ∃ error, result.encoded true = .error error := by
  by_cases hfails : ∃ name ∈ parameters, ∃ error, name.encoded false = .error error
  -- If parameters fail, one of them is the leftmost. Otherwise the result is all that is left.
  · have hstops : ∃ name ∈ parameters, ∃ error, TypeName.toFieldType name = .error error := by
      obtain ⟨name, hmem, error, herror⟩ := hfails
      exact ⟨name, hmem, error, map_eq_error_iff.mp herror⟩
    obtain ⟨before, types, name, error, hstop⟩ := exists_stopsAt hstops
    exact ⟨fun _ => .inl hfails, fun _ => ⟨error, ofTypeNames_of_stopsAt hstop⟩⟩
  · have hall : ∀ name ∈ parameters, ∃ text, name.encoded false = .ok text := by
      intro name hmem
      cases hname : name.encoded false with
      | ok text => exact ⟨text, rfl⟩
      | error error => exact absurd ⟨name, hmem, error, hname⟩ hfails
    cases hresult : result.encoded true with
    | error error =>
      exact ⟨fun _ => .inr ⟨error, rfl⟩,
        fun _ => ⟨error, ofTypeNames_eq_error_of_result hall hresult⟩⟩
    | ok text =>
      obtain ⟨types, htypes⟩ := exists_types hall
      obtain ⟨type, htype, -⟩ := map_eq_ok_iff.mp hresult
      have hok : ofTypeNames parameters result = .ok ⟨types, type⟩ :=
        ofTypeNames_eq_ok_iff.mpr ⟨htypes, htype⟩
      simp [hok, hfails]

end MethodDescriptor

/-! ## Legal names -/

/-- Exactly the legal type names are encoded. A name has one base and one number of pairs of
    brackets, and its text is the code of the base after as many brackets, if the base has a code
    and the brackets are at most 255. Of any other name the whole is reported. Respelling a name
    changes neither its text nor what is wrong with it. Deriving a descriptor fails exactly if one
    of the names does, with the error of the leftmost parameter that fails or else of the result. -/
theorem legal_names_are_encoded :
    (∀ text, ∃! form : Text × Nat, IsBase form.1 ∧ text = form.1 ++ brackets form.2) ∧
    (∀ {base}, IsBase base → ∀ count allowVoid,
      (∀ text, (TypeName.written (base ++ brackets count)).encoded allowVoid = .ok text ↔
        IsEncoded allowVoid base count text) ∧
      ((¬ ∃ text, IsEncoded allowVoid base count text) →
        ∃ fault, (TypeName.written (base ++ brackets count)).encoded allowVoid =
          .error ⟨base ++ brackets count, fault⟩)) ∧
    (∀ allowVoid name,
      ((TypeName.written (toInternalName name)).encoded allowVoid).mapError DescriptorError.fault =
        ((TypeName.written name).encoded allowVoid).mapError DescriptorError.fault ∧
      ((TypeName.written (toCanonicalName name)).encoded allowVoid).mapError DescriptorError.fault =
        ((TypeName.written name).encoded allowVoid).mapError DescriptorError.fault) ∧
    (∀ parameters result, (∃ error, MethodDescriptor.ofTypeNames parameters result = .error error) ↔
      (∃ name ∈ parameters, ∃ error, TypeName.encoded false name = .error error) ∨
        ∃ error, TypeName.encoded true result = .error error) ∧
    (∀ {before : List TypeName} {name error},
      (∀ name ∈ before, ∃ text, name.encoded false = .ok text) →
      name.encoded false = .error error → ∀ after result,
      MethodDescriptor.ofTypeNames (before ++ name :: after) result = .error error) ∧
    ∀ {parameters : List TypeName} {result error},
      (∀ name ∈ parameters, ∃ text, name.encoded false = .ok text) →
      result.encoded true = .error error →
      MethodDescriptor.ofTypeNames parameters result = .error error := by
  refine ⟨?_, ?_, ?_, ?_, ?_, MethodDescriptor.ofTypeNames_eq_error_of_result⟩
  · intro text
    -- As many pairs of brackets as there are, so that none is left on the base.
    obtain ⟨base, count, hbase, rfl⟩ := exists_base_brackets text
    refine ⟨(base, count), ⟨hbase, rfl⟩, ?_⟩
    rintro ⟨base', count'⟩ ⟨hbase', heq⟩
    obtain ⟨rfl, rfl⟩ := base_brackets_inj hbase hbase' heq
    rfl
  · intro base hbase count allowVoid
    rw [TypeName.encoded_base_brackets hbase]
    refine ⟨fun text => mapError_eq_ok_iff.trans encodedBase_eq_ok_iff, ?_⟩
    intro hillegal
    cases hencoded : encodedBase allowVoid base count with
    | ok text => exact absurd ⟨text, encodedBase_eq_ok_iff.mp hencoded⟩ hillegal
    | error fault => exact ⟨fault, rfl⟩
  · intro allowVoid name
    exact ⟨TypeName.encoded_normalize .internal allowVoid name,
      TypeName.encoded_normalize .canonical allowVoid name⟩
  · exact fun parameters result => MethodDescriptor.exists_ofTypeNames_error_iff
  · exact fun hbefore hname after result =>
      MethodDescriptor.ofTypeNames_eq_error_of_parameter hbefore hname

/-- An array of a class, an array of nothing, and parameters of which the second is reported. -/
theorem legal_names_are_encoded_arrays :
    (TypeName.written "a.b[][]").encoded false = .ok "[[La/b;" ∧
    (∃ fault, (TypeName.written "void[]").encoded true = .error ⟨"void[]", fault⟩) ∧
    MethodDescriptor.ofTypeNames [.written "int", .written "void", .written ""] (.written "a..b") =
      .error ⟨"void", .misplacedVoid⟩ ∧
    MethodDescriptor.ofTypeNames [.written "int"] (.written "a..b") =
      .error ⟨"a..b", .emptySegment⟩ := by
  obtain ⟨-, hencoded, -, -, hparameter, hresult⟩ := legal_names_are_encoded
  have hint : ∀ name ∈ [TypeName.written "int"], ∃ text, name.encoded false = .ok text := by
    rintro name hname
    obtain rfl := List.mem_singleton.mp hname
    exact ⟨"I", by cbv⟩
  refine ⟨?_, ?_, ?_, ?_⟩
  · have hbase : IsBase "a.b" := by decide
    have hinternal : toInternalName "a.b" = "a/b" := by cbv
    have hlegal : Grammar.IsClassName (toInternalName "a.b").toList := by
      rw [hinternal, Grammar.isClassName_iff]
      decide
    refine ((hencoded hbase 2 false).1 _).mpr
      ⟨by decide, by decide, _, .cls 2 (by decide) hlegal, ?_⟩
    rw [hinternal]
    decide
  · have hbase : IsBase "void" := by decide
    refine (hencoded hbase 1 true).2 ?_
    rintro ⟨text, -, -, code, hcode, -⟩
    generalize hword : Text.ofString "void" = base at hcode
    generalize hcount : 1 = count at hcode
    cases hcode with
    | primitive count hletter =>
      rw [← Text.ofString_injective hword] at hletter
      exact absurd hletter (by simp [primitiveLetters])
    | void => cases hcount
    | cls count hclass => exact hclass (hword ▸ by decide)
  · exact hparameter hint (by cbv) _ _
  · exact hresult hint (by cbv)

end CallSites
