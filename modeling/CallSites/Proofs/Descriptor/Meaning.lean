/-
  CallSites.Proofs.Descriptor.Meaning

  What type names mean, said without descriptors: a primitive word or a class, with a number of
  array dimensions. Descriptors tell lists of type names apart exactly where their meanings differ,
  so a matcher of one signature accepts one overload, however its types are spelled.
-/
import CallSites.Proofs.Descriptor.Derived
import CallSites.Proofs.Descriptor.TypeName
import CallSites.Proofs.Matcher.Literal

namespace CallSites

/-! ## Meanings -/

/-- What the base of a type name is about. -/
inductive Base where
  | primitive (word : Text)
  /-- A class, by its name with slashes. -/
  | cls (name : Text)
  deriving DecidableEq

/-- What a base is about. -/
def Base.ofText (text : Text) : Base :=
  if text ∈ primitiveWords then .primitive text else .cls (toInternalName text)

/-- What a type name is about: its base and a number of array dimensions. -/
structure Meaning where
  base : Base
  dimensions : Nat
  deriving DecidableEq

namespace TypeName

/-- What a type name means. A handle means its class, also if that is called like a primitive. -/
inductive Means : TypeName → Meaning → Prop where
  | written {base : Text} {dimensions : Nat} :
      IsBase base → Means (written (base ++ brackets dimensions)) ⟨.ofText base, dimensions⟩
  | handle {cls : ClassHandle} :
      Means (handle cls) ⟨.cls (toInternalName cls.name), 0⟩

/-- A type name has one meaning. -/
theorem Means.unique {name : TypeName} {first second : Meaning} (hfirst : name.Means first)
    (hsecond : name.Means second) : first = second := by
  cases hfirst with
  | handle =>
    cases hsecond
    rfl
  | @written base dimensions hbase =>
    -- The second meaning is of the same text, which has one base and one number of brackets.
    generalize hname : TypeName.written (base ++ brackets dimensions) = name at hsecond
    cases hsecond with
    | handle => cases hname
    | written hbase' =>
      obtain ⟨rfl, rfl⟩ := base_brackets_inj hbase hbase' (TypeName.written.inj hname)
      rfl

theorem exists_means (name : TypeName) : ∃ meaning, name.Means meaning := by
  cases name with
  | handle cls => exact ⟨_, .handle⟩
  | written text =>
    obtain ⟨base, dimensions, hbase, rfl⟩ := exists_base_brackets text
    exact ⟨_, .written hbase⟩

/-- Two names mean the same. -/
def SameMeaning (left right : TypeName) : Prop :=
  ∃ meaning, left.Means meaning ∧ right.Means meaning

end TypeName

/-! ## Types and meanings -/

/-- The meaning of the names of a type. -/
def ReturnType.meaning : ReturnType → Meaning
  | .void => ⟨.primitive voidWord, 0⟩
  | .value ⟨dimensions, .primitive type, _⟩ => ⟨.primitive type.word, dimensions⟩
  | .value ⟨dimensions, .reference name, _⟩ => ⟨.cls (Text.ofList name.chars), dimensions⟩

theorem ReturnType.meaning_injective {a b : ReturnType} (h : a.meaning = b.meaning) : a = b := by
  -- Types of different forms have different bases: `void` is no word of a primitive type, and a
  -- word is no class even if they are written alike.
  rcases a with _ | ⟨dimensions, type | name, hle⟩ <;>
    rcases b with _ | ⟨dimensions', type' | name', hle'⟩
  · rfl
  · have hword := Base.primitive.inj (congrArg Meaning.base h)
    exact absurd hword.symm type'.word_ne_voidWord
  · cases congrArg Meaning.base h
  · have hword := Base.primitive.inj (congrArg Meaning.base h)
    exact absurd hword type.word_ne_voidWord
  · have hword := Primitive.word_injective (Base.primitive.inj (congrArg Meaning.base h))
    have hdimensions : dimensions = dimensions' := congrArg Meaning.dimensions h
    subst hword hdimensions
    rfl
  · cases congrArg Meaning.base h
  · cases congrArg Meaning.base h
  · cases congrArg Meaning.base h
  · have hchars := congrArg Text.toList (Base.cls.inj (congrArg Meaning.base h))
    have hdimensions : dimensions = dimensions' := congrArg Meaning.dimensions h
    obtain ⟨chars, hlegal⟩ := name
    obtain ⟨chars', hlegal'⟩ := name'
    cases hchars
    subst hdimensions
    rfl

theorem Base.ofText_word (type : Primitive) : Base.ofText type.word = .primitive type.word :=
  if_pos type.word_mem_primitiveWords

theorem meaning_of_baseStandsFor {base : Text} {dimensions : Nat} {type : ReturnType}
    (h : BaseStandsFor base dimensions type) : type.meaning = ⟨.ofText base, dimensions⟩ := by
  cases h with
  | void => rfl
  | @primitive type => rw [Base.ofText_word, ReturnType.meaning]
  | @reference _ _ name _ hword hname =>
    have hchars : Text.ofList name.chars = toInternalName base := by
      rw [← InternalName.ofChars_eq_ok_iff.mp hname, Text.ofList_toList]
    rw [Base.ofText, if_neg hword, ← hchars, ReturnType.meaning]

/-- The type that a name stands for has the meaning of the name. -/
theorem means_of_toReturnType {name : TypeName} {type : ReturnType}
    (h : name.toReturnType = .ok type) : name.Means type.meaning := by
  cases name with
  | handle cls =>
    cases h
    have hinternal := cls.internal_eq
    rw [internalName, mapError_eq_ok_iff, InternalName.ofChars_eq_ok_iff] at hinternal
    have hname : Text.ofList cls.internal.chars = toInternalName cls.name := by
      rw [← hinternal, Text.ofList_toList]
    have hmeans : (TypeName.handle cls).Means ⟨.cls (toInternalName cls.name), 0⟩ := .handle
    rwa [← hname] at hmeans
  | written text =>
    obtain ⟨base, dimensions, hbase, rfl⟩ := exists_base_brackets text
    rw [TypeName.toReturnType_base_brackets hbase, mapError_eq_ok_iff, typeOfBase_eq_ok_iff] at h
    rw [meaning_of_baseStandsFor h]
    exact .written hbase

/-- Names stand for one type exactly if they mean the same. -/
theorem toReturnType_eq_iff_sameMeaning {left right : TypeName} {a b : ReturnType}
    (hleft : left.toReturnType = .ok a) (hright : right.toReturnType = .ok b) :
    a = b ↔ left.SameMeaning right := by
  have ha := means_of_toReturnType hleft
  have hb := means_of_toReturnType hright
  refine ⟨?_, ?_⟩
  · rintro rfl
    exact ⟨a.meaning, ha, hb⟩
  · rintro ⟨meaning, hleft, hright⟩
    apply ReturnType.meaning_injective
    rw [ha.unique hleft, hb.unique hright]

theorem types_eq_iff_sameMeaning {left right : List TypeName} {a b : List FieldType}
    (hleft : List.Forall₂ (fun name type => name.toFieldType = .ok type) left a)
    (hright : List.Forall₂ (fun name type => name.toFieldType = .ok type) right b) :
    a = b ↔ List.Forall₂ TypeName.SameMeaning left right := by
  -- Along the names of the first list. Lists of different lengths agree on neither side.
  induction hleft generalizing right b with
  | nil =>
    cases hright with
    | nil => simp
    | cons _ _ => simp
  | cons hname _ ih =>
    cases hright with
    | nil => simp
    | cons hname' hright =>
      have hhead := toReturnType_eq_iff_sameMeaning (TypeName.toFieldType_eq_ok_iff.mp hname)
        (TypeName.toFieldType_eq_ok_iff.mp hname')
      rw [List.cons.injEq, List.forall₂_cons, ← ih hright, ← hhead, ReturnType.value.injEq]

namespace MethodDescriptor

/-- Derived descriptors are written alike exactly if the names that they are derived from mean the
    same, position by position. -/
theorem text_eq_iff_sameMeaning {parameters parameters' : List TypeName}
    {result result' : TypeName} {descriptor descriptor' : MethodDescriptor}
    (h : ofTypeNames parameters result = .ok descriptor)
    (h' : ofTypeNames parameters' result' = .ok descriptor') :
    descriptor.text = descriptor'.text ↔
      List.Forall₂ TypeName.SameMeaning parameters parameters' ∧
        result.SameMeaning result' := by
  obtain ⟨hparameters, hresult⟩ := ofTypeNames_eq_ok_iff.mp h
  obtain ⟨hparameters', hresult'⟩ := ofTypeNames_eq_ok_iff.mp h'
  rw [← types_eq_iff_sameMeaning hparameters hparameters',
    ← toReturnType_eq_iff_sameMeaning hresult hresult']
  refine ⟨?_, ?_⟩
  · intro htext
    obtain rfl := text_injective htext
    exact ⟨rfl, rfl⟩
  · rintro ⟨hparameters, hresult⟩
    rw [text_eq_join, text_eq_join, hparameters, hresult]

end MethodDescriptor

/-! ## Spellings -/

theorem normalize_brackets (format : NameFormat) (count : Nat) :
    format.normalize (brackets count) = brackets count := by
  rw [NameFormat.normalize_eq_self_iff]
  cases format <;> simp [brackets, NameFormat.other, NameFormat.separator]

theorem IsBase.normalize {text : Text} (h : IsBase text) (format : NameFormat) :
    IsBase (format.normalize text) := by
  rintro ⟨front, hfront⟩
  rw [NameFormat.toList_normalize] at hfront
  obtain ⟨first, last, htext, -, hlast⟩ := List.map_eq_append_iff.mp hfront.symm
  -- A bracket is no separator, so the pair at the end was there before the respelling.
  obtain ⟨c, rest, rfl, hc, hrest⟩ := List.map_eq_cons_iff.mp hlast
  obtain ⟨d, rest, rfl, hd, hnil⟩ := List.map_eq_cons_iff.mp hrest
  obtain rfl := NameFormat.eq_of_mapChar_respell_eq hc (by cases format <;> decide)
  obtain rfl := NameFormat.eq_of_mapChar_respell_eq hd (by cases format <;> decide)
  obtain rfl := List.map_eq_nil_iff.mp hnil
  exact h ⟨first, htext.symm⟩

theorem separator_notMem_of_mem_primitiveWords {word : Text} (h : word ∈ primitiveWords)
    (format : NameFormat) : .char format.separator ∉ word.toList := by
  have hall : ∀ word ∈ primitiveWords, .char format.separator ∉ word.toList := by
    cases format <;> decide
  exact hall word h

/-- A text with separators is no primitive word in any spelling, and one without has no other. -/
theorem Base.ofText_normalize (format : NameFormat) (text : Text) :
    Base.ofText (format.normalize text) = Base.ofText text := by
  by_cases hsep : .char format.other.separator ∈ text.toList
  · have htext : text ∉ primitiveWords :=
      fun h => separator_notMem_of_mem_primitiveWords h format.other hsep
    have hnormal : format.normalize text ∉ primitiveWords := fun h =>
      separator_notMem_of_mem_primitiveWords h format (NameFormat.separator_mem_normalize hsep)
    rw [Base.ofText, if_neg hnormal, Base.ofText, if_neg htext, toInternalName, toInternalName,
      NameFormat.normalize_normalize]
  · rw [NameFormat.normalize_eq_self_iff.mpr hsep]

/-- Respelling a type name does not change what it means. -/
theorem TypeName.sameMeaning_normalize (format : NameFormat) (text : Text) :
    (written (format.normalize text)).SameMeaning (written text) := by
  obtain ⟨base, dimensions, hbase, rfl⟩ := exists_base_brackets text
  refine ⟨⟨.ofText base, dimensions⟩, ?_, .written hbase⟩
  rw [NameFormat.normalize_append, normalize_brackets, ← Base.ofText_normalize format]
  exact .written (hbase.normalize format)

/-! ## Overloads -/

/-- Derived descriptors and the matchers of one signature tell overloads apart exactly where the
    meanings of their types differ. Every name has one meaning, and spelling the separators of a
    class name differently does not change it. -/
theorem signature_eq_iff_sameMeaning :
    (∀ name : TypeName, ∃! meaning, name.Means meaning) ∧
    (∀ parameters parameters' result result' descriptor descriptor',
      MethodDescriptor.ofTypeNames parameters result = .ok descriptor →
      MethodDescriptor.ofTypeNames parameters' result' = .ok descriptor' →
      (descriptor.text = descriptor'.text ↔
        List.Forall₂ TypeName.SameMeaning parameters parameters' ∧
          result.SameMeaning result')) ∧
    (∀ cls name format parameters parameters' result result' method method',
      MethodHandle.ofTypes name parameters result = .ok method →
      MethodHandle.ofTypes name parameters' result' = .ok method' →
      ∃ matcher matcher', Matcher.forMethod cls method format = .ok matcher ∧
        Matcher.forMethod cls method' format = .ok matcher' ∧
        ((∀ query given,
            matcher.acceptsMethod query given = matcher'.acceptsMethod query given) ↔
          List.Forall₂ TypeName.SameMeaning parameters parameters' ∧
            result.SameMeaning result')) ∧
    (∀ format text,
      TypeName.SameMeaning (.written (NameFormat.normalize format text)) (.written text)) := by
  refine ⟨?_, ?_, ?_, TypeName.sameMeaning_normalize⟩
  · intro name
    obtain ⟨meaning, hmeans⟩ := name.exists_means
    exact ⟨meaning, hmeans, fun _ hother => hother.unique hmeans⟩
  · intro parameters parameters' result result' descriptor descriptor' h h'
    exact MethodDescriptor.text_eq_iff_sameMeaning h h'
  · intro cls name format parameters parameters' result result' method method' h h'
    obtain ⟨rfl, rfl, rfl⟩ := MethodHandle.ofTypes_eq_ok_iff.mp h
    obtain ⟨hname, rfl, rfl⟩ := MethodHandle.ofTypes_eq_ok_iff.mp h'
    refine ⟨_, _, Matcher.forMethod_eq cls method format, Matcher.forMethod_eq cls method' format,
      ?_⟩
    -- Both matchers ask for the one name, so they differ by their descriptors only.
    rw [← MethodDescriptor.text_eq_iff_sameMeaning method.descriptor_eq method'.descriptor_eq]
    simp only [Matcher.acceptsMethod, Matcher.literal, MethodMatcher.ofMethod, hname]
    exact MethodMatcher.accepts_signature_eq_iff

/-- Two spellings of one overload, by their descriptors and by their matchers. -/
theorem signature_eq_iff_sameMeaning_spellings :
    ∃ descriptor descriptor' cls method method',
      MethodDescriptor.ofTypeNames [.written "a.b[]", .written "int"] (.written "void")
        = .ok descriptor ∧
      MethodDescriptor.ofTypeNames [.written "a/b[]", .written "int"] (.written "void")
        = .ok descriptor' ∧
      descriptor.text = "([La/b;I)V" ∧
      (descriptor.text = descriptor'.text ↔
        List.Forall₂ TypeName.SameMeaning [.written "a.b[]", .written "int"]
          [.written "a/b[]", .written "int"] ∧
        TypeName.SameMeaning (.written "void") (.written "void")) ∧
      ClassHandle.ofName "C" = .ok cls ∧
      MethodHandle.ofTypes "run" [.written "a.b[]", .written "int"] (.written "void")
        = .ok method ∧
      MethodHandle.ofTypes "run" [.written "a/b[]", .written "int"] (.written "void")
        = .ok method' ∧
      ∃ matcher matcher', Matcher.forMethod cls method .internal = .ok matcher ∧
        Matcher.forMethod cls method' .internal = .ok matcher' ∧
        ((∀ query given,
            matcher.acceptsMethod query given = matcher'.acceptsMethod query given) ↔
          List.Forall₂ TypeName.SameMeaning [.written "a.b[]", .written "int"]
            [.written "a/b[]", .written "int"] ∧
          TypeName.SameMeaning (.written "void") (.written "void")) := by
  have htext : (MethodDescriptor.ofTypeNames [.written "a.b[]", .written "int"]
      (.written "void")).map MethodDescriptor.text = .ok "([La/b;I)V" := by cbv
  have htext' : (MethodDescriptor.ofTypeNames [.written "a/b[]", .written "int"]
      (.written "void")).map MethodDescriptor.text = .ok "([La/b;I)V" := by cbv
  have hchars : (internalName "C").map InternalName.chars = .ok [.char 'C'] := by cbv
  obtain ⟨descriptor, hderived, htext⟩ := map_eq_ok_iff.mp htext
  obtain ⟨descriptor', hderived', -⟩ := map_eq_ok_iff.mp htext'
  obtain ⟨internal, hinternal, -⟩ := map_eq_ok_iff.mp hchars
  obtain ⟨cls, hcls⟩ := ClassHandle.exists_ofName hinternal
  obtain ⟨method, hmethod, -⟩ := MethodHandle.exists_ofTypes "run" hderived
  obtain ⟨method', hmethod', -⟩ := MethodHandle.exists_ofTypes "run" hderived'
  exact ⟨descriptor, descriptor', cls, method, method', hderived, hderived', htext,
    signature_eq_iff_sameMeaning.2.1 _ _ _ _ _ _ hderived hderived', hcls, hmethod, hmethod',
    signature_eq_iff_sameMeaning.2.2.1 cls "run" .internal _ _ _ _ _ _ hmethod hmethod'⟩

end CallSites
