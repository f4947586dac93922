/-
  CallSites.Proofs.Descriptor.TypeName

  Type names as a base and a number of pairs of brackets. Every text has one such form, and what a
  type name stands for is decided by its base and the number of pairs.
-/
import CallSites.Descriptor.TypeName
import CallSites.Proofs.Descriptor.Reading

namespace CallSites

/-! ## Bases and brackets -/

/-- As many pairs of brackets. -/
def brackets (count : Nat) : Text :=
  Text.join (List.replicate count "[]")

/-- A text that does not end in a pair of brackets. -/
def IsBase (text : Text) : Prop :=
  ¬ [.char '[', .char ']'] <:+ text.toList

instance (text : Text) : Decidable (IsBase text) :=
  inferInstanceAs (Decidable (¬ _))

theorem reverse_toList_append_brackets (base : Text) (count : Nat) :
    (base ++ brackets count).toList.reverse =
      (List.replicate count [.char ']', .char '[']).flatten ++ base.toList.reverse := by
  simp [brackets, List.flatMap_def, List.reverse_flatten]

theorem splitDimensions_of_not_prefix {base : List Symbol} (h : ¬ [.char ']', .char '['] <+: base) :
    splitDimensions base = (0, base) := by
  unfold splitDimensions
  split
  · next rest => exact absurd (List.prefix_append [.char ']', .char '['] rest) h
  · rfl

theorem splitDimensions_flatten_append (count : Nat) {base : List Symbol}
    (h : ¬ [.char ']', .char '['] <+: base) :
    splitDimensions ((List.replicate count [.char ']', .char '[']).flatten ++ base)
      = (count, base) := by
  induction count with
  | zero => exact splitDimensions_of_not_prefix h
  | succ count ih =>
    rw [List.replicate_succ, List.flatten_cons, List.append_assoc]
    simp only [List.cons_append, List.nil_append, splitDimensions, ih]

theorem exists_eq_flatten_append (reversed : List Symbol) :
    ∃ count base, ¬ [.char ']', .char '['] <+: base ∧
      reversed = (List.replicate count [.char ']', .char '[']).flatten ++ base := by
  -- Along the recursion that counts the pairs. It ends at a text without a pair at its front.
  fun_induction splitDimensions reversed with
  | case1 rest count base _ ih =>
    obtain ⟨count, base, hbase, hrest⟩ := ih
    refine ⟨count + 1, base, hbase, ?_⟩
    rw [List.replicate_succ, List.flatten_cons, List.append_assoc, ← hrest]
    rfl
  | case2 base hother =>
    refine ⟨0, base, ?_, rfl⟩
    rintro ⟨rest, rfl⟩
    exact hother rest rfl

theorem isBase_iff {text : Text} :
    IsBase text ↔ ¬ [.char ']', .char '['] <+: text.toList.reverse := by
  rw [IsBase, ← List.reverse_prefix]
  rfl

theorem splitDimensions_base_brackets {base : Text} (h : IsBase base) (count : Nat) :
    splitDimensions (base ++ brackets count).toList.reverse = (count, base.toList.reverse) := by
  rw [reverse_toList_append_brackets]
  exact splitDimensions_flatten_append count (isBase_iff.mp h)

theorem exists_base_brackets (text : Text) :
    ∃ base count, IsBase base ∧ text = base ++ brackets count := by
  obtain ⟨count, reversed, hreversed, htext⟩ := exists_eq_flatten_append text.toList.reverse
  refine ⟨Text.ofList reversed.reverse, count, ?_, ?_⟩
  · rw [isBase_iff]
    simpa using hreversed
  · apply Text.toList_injective
    apply List.reverse_injective
    rw [reverse_toList_append_brackets, htext]
    simp

/-- A text has one base and one number of pairs of brackets after it. -/
theorem base_brackets_inj {base base' : Text} {count count' : Nat} (h : IsBase base)
    (h' : IsBase base') (heq : base ++ brackets count = base' ++ brackets count') :
    base = base' ∧ count = count' := by
  -- Both forms are what the count from the end of the one text returns.
  have hsplit := splitDimensions_base_brackets h count
  rw [heq, splitDimensions_base_brackets h' count'] at hsplit
  obtain ⟨hcount, hbase⟩ := Prod.mk.inj hsplit
  refine ⟨?_, hcount.symm⟩
  apply Text.toList_injective
  exact (List.reverse_injective hbase).symm

/-! ## Primitive words -/

/-- The words of source code that name no class. -/
def primitiveWords : List Text :=
  ["boolean", "byte", "char", "short", "int", "long", "float", "double", "void"]

theorem Primitive.word_injective {a b : Primitive} (h : (a.word : Text) = b.word) : a = b := by
  have ha := Primitive.ofWord?_word a
  rw [h, Primitive.ofWord?_word] at ha
  exact (Option.some.inj ha).symm

theorem Primitive.word_ne_voidWord (type : Primitive) : (type.word : Text) ≠ voidWord := by
  cases type <;> decide

theorem Primitive.word_of_ofWord? {word : Text} {type : Primitive}
    (h : Primitive.ofWord? word = some type) : (type.word : Text) = word := by
  have hfound := List.find?_some h
  exact beq_iff_eq.mp hfound

theorem Primitive.word_mem_primitiveWords (type : Primitive) :
    (type.word : Text) ∈ primitiveWords := by
  cases type <;> decide

theorem Primitive.notMem_primitiveWords_of_ofWord? {word : Text} (hvoid : word ≠ voidWord)
    (h : Primitive.ofWord? word = none) : word ∉ primitiveWords := by
  have hwords : primitiveWords
      = Primitive.all.map (fun type => (type.word : Text)) ++ [(voidWord : Text)] := rfl
  intro hmem
  rw [hwords, List.mem_append, List.mem_singleton, List.mem_map] at hmem
  obtain ⟨type, htype, rfl⟩ := hmem.resolve_right hvoid
  rw [Primitive.ofWord?_word] at h
  cases h

/-! ## What a name stands for -/

/-- What a base with so many array dimensions stands for. -/
inductive BaseStandsFor : Text → Nat → ReturnType → Prop where
  | void : BaseStandsFor voidWord 0 .void
  | primitive {type : Primitive} {dimensions : Nat} (hle : dimensions ≤ maxDimensions) :
      BaseStandsFor type.word dimensions (.value ⟨dimensions, .primitive type, hle⟩)
  | reference {base : Text} {dimensions : Nat} {name : InternalName}
      (hle : dimensions ≤ maxDimensions) :
      base ∉ primitiveWords → InternalName.ofChars (toInternalName base).toList = .ok name →
      BaseStandsFor base dimensions (.value ⟨dimensions, .reference name, hle⟩)

theorem typeOfBase_eq_ok_iff {base : Text} {dimensions : Nat} {type : ReturnType} :
    typeOfBase base.toList dimensions = .ok type ↔ BaseStandsFor base dimensions type := by
  refine ⟨?_, ?_⟩
  · intro h
    -- The tests in the order in which they are made; each success leaves one form of base.
    unfold typeOfBase at h
    split at h
    · cases h
    split at h
    · next hle =>
      split at h
      · next hvoid =>
        cases Text.toList_injective hvoid
        split at h
        · next hzero => cases h; cases hzero; exact .void
        · cases h
      · next hvoid =>
        have hvoid : base ≠ voidWord := fun hword => hvoid (congrArg Text.toList hword)
        rw [Text.ofList_toList] at h
        split at h
        · next primitive hprimitive =>
          cases h
          rw [← Primitive.word_of_ofWord? hprimitive]
          exact .primitive hle
        · next hnone =>
          rw [← NameFormat.toList_normalize] at h
          split at h
          · cases h
          · next name hname =>
            cases h
            exact .reference hle (Primitive.notMem_primitiveWords_of_ofWord? hvoid hnone) hname
    · cases h
  · intro h
    cases h with
    | void => rfl
    | @primitive type _ hle =>
      have hnil : (type.word : Text).toList ≠ [] := by cases type <;> decide
      have hvoid : (type.word : Text).toList ≠ (voidWord : Text).toList :=
        fun heq => type.word_ne_voidWord (Text.toList_injective heq)
      simp only [typeOfBase, hnil, hvoid, hle, ↓reduceIte, ↓reduceDIte,
        Text.ofList_toList, Primitive.ofWord?_word]
    | @reference _ _ name hle hword hname =>
      -- A class name is not empty and no word, so none of the tests before the last applies.
      have hnil : base.toList ≠ [] := by
        intro hnil
        have hchars := InternalName.ofChars_eq_ok_iff.mp hname
        rw [toInternalName, NameFormat.toList_normalize, hnil] at hchars
        exact name.chars_ne_nil hchars.symm
      have hvoid : base.toList ≠ (voidWord : Text).toList := by
        intro heq
        rw [Text.toList_injective heq] at hword
        exact hword (by decide)
      have hnone : Primitive.ofWord? base = none := by
        cases hprimitive : Primitive.ofWord? base with
        | none => rfl
        | some type =>
          rw [← Primitive.word_of_ofWord? hprimitive] at hword
          exact absurd type.word_mem_primitiveWords hword
      rw [toInternalName, NameFormat.toList_normalize] at hname
      simp only [typeOfBase, hnil, hvoid, hle, ↓reduceIte, ↓reduceDIte,
        Text.ofList_toList, hnone, hname]

namespace TypeName

theorem toReturnType_base_brackets {base : Text} (h : IsBase base) (count : Nat) :
    (written (base ++ brackets count)).toReturnType =
      (typeOfBase base.toList count).mapError (⟨base ++ brackets count, ·⟩) := by
  simp only [toReturnType, splitDimensions_base_brackets h, List.reverse_reverse]

/-- A name stands for a field type where it stands for a result other than none. -/
theorem toFieldType_eq_ok_iff {name : TypeName} {type : FieldType} :
    name.toFieldType = .ok type ↔ name.toReturnType = .ok (.value type) := by
  unfold toFieldType
  split <;> simp_all

end TypeName

/-! ## Handles -/

/-- A handle is that of the name it is built from. -/
theorem ClassHandle.ofName_eq_ok_iff {name : Text} {cls : ClassHandle} :
    ofName name = .ok cls ↔ cls.name = name := by
  refine ⟨?_, ?_⟩
  · intro h
    unfold ofName at h
    split at h
    · cases h
      rfl
    · cases h
  · rintro rfl
    unfold ofName
    split
    · exact congrArg Except.ok (eq_of_name_eq rfl)
    · next error herror =>
      rw [cls.internal_eq] at herror
      cases herror

/-- A class has a handle if its name is legal in the internal spelling. -/
theorem ClassHandle.exists_ofName {name : Text} {internal : InternalName}
    (h : internalName name = .ok internal) : ∃ cls, ofName name = .ok cls :=
  ⟨⟨name, internal, h⟩, ofName_eq_ok_iff.mpr rfl⟩

/-- A handle is that of the parts it is built from. -/
theorem MethodHandle.ofTypes_eq_ok_iff {name : Text} {parameters : List TypeName}
    {result : TypeName} {method : MethodHandle} :
    ofTypes name parameters result = .ok method ↔
      method.name = name ∧ method.parameters = parameters ∧ method.result = result := by
  refine ⟨?_, ?_⟩
  · intro h
    unfold ofTypes at h
    split at h
    · cases h
      exact ⟨rfl, rfl, rfl⟩
    · cases h
  · rintro ⟨rfl, rfl, rfl⟩
    unfold ofTypes
    split
    · exact congrArg Except.ok (eq_of_parts_eq rfl rfl rfl)
    · next error herror =>
      rw [method.descriptor_eq] at herror
      cases herror

/-- A method has a handle if its types have a descriptor, and the handle carries that. -/
theorem MethodHandle.exists_ofTypes {parameters : List TypeName} {result : TypeName}
    {descriptor : MethodDescriptor} (name : Text)
    (h : MethodDescriptor.ofTypeNames parameters result = .ok descriptor) :
    ∃ method, ofTypes name parameters result = .ok method ∧ method.descriptor = descriptor :=
  ⟨⟨name, parameters, result, descriptor, h⟩, ofTypes_eq_ok_iff.mpr ⟨rfl, rfl, rfl⟩, rfl⟩

/-- A method has a handle exactly if its types are given as a list of names, and these have a
    descriptor. One text has none, even if its characters are the names of types. -/
theorem MethodHandle.exists_ofGiven_iff {name : Text} {parameters : ParameterTypes}
    {result : TypeName} :
    (∃ method, ofGiven name parameters result = .ok method) ↔
      ∃ names descriptor, parameters = .names names ∧
        MethodDescriptor.ofTypeNames names result = .ok descriptor := by
  refine ⟨?_, ?_⟩
  · rintro ⟨method, hmethod⟩
    cases parameters with
    | text text => cases hmethod
    | names names =>
      obtain ⟨-, rfl, rfl⟩ := ofTypes_eq_ok_iff.mp hmethod
      exact ⟨_, _, rfl, method.descriptor_eq⟩
  · rintro ⟨names, descriptor, rfl, hdescriptor⟩
    obtain ⟨method, hmethod, -⟩ := exists_ofTypes name hdescriptor
    exact ⟨method, hmethod⟩

end CallSites
