/-
  CallSites.Proofs.Config.Shape

  The documents that are read as configurations, by what stands under their keys. Each part of a
  document is described by a relation to what is read from it, and each reader succeeds exactly
  where its relation holds.
-/
import CallSites.Config.Basic
import CallSites.Proofs.Outcome

namespace CallSites
namespace MatcherConfig

variable {entries : Entries} {value : Value}

/-! ## Texts -/

theorem text_eq_ok_iff {what : String} {string : Text} :
    text what value = .ok string ↔ value = .str string := by
  cases value <;> simp [text, fail]

theorem texts?_eq_some_iff {items : List Value} {names : List Text} :
    texts? items = some names ↔ items = names.map .str := by
  induction items generalizing names with
  | nil => cases names <;> simp [texts?]
  | cons item items ih =>
    cases item with
    | str string =>
      rw [texts?, Option.map_eq_some_iff]
      refine ⟨?_, ?_⟩
      · rintro ⟨rest, hrest, rfl⟩
        rw [ih.mp hrest, List.map_cons]
      · intro h
        cases names with
        | nil => cases h
        | cons name names =>
          rw [List.map_cons] at h
          cases h
          exact ⟨names, ih.mpr rfl, rfl⟩
    | _ => cases names <;> simp [texts?]

/-! ## Variants -/

/-- Of the variants, the mapping has this one only. -/
structure HasVariant (entries : Entries) (variants : List String) (name : String)
    (value : Value) : Prop where
  mem : name ∈ variants
  field : Value.field? entries name = some value
  others : ∀ other ∈ variants, other ≠ name → Value.field? entries other = none

theorem filterMap_field?_eq_singleton_iff {variants : List String} {name : String}
    (hnodup : variants.Nodup) :
    variants.filterMap (fun variant => (Value.field? entries variant).map (variant, ·))
        = [(name, value)] ↔ HasVariant entries variants name value := by
  -- Along the variants. The first that is present must be the one, and the others absent.
  induction variants with
  | nil => exact ⟨nofun, fun h => absurd h.mem List.not_mem_nil⟩
  | cons variant variants ih =>
    obtain ⟨hnew, hnodup⟩ := List.nodup_cons.mp hnodup
    cases hfield : Value.field? entries variant with
    | none =>
      rw [List.filterMap_cons_none (by rw [hfield]; rfl), ih hnodup]
      refine ⟨?_, ?_⟩
      · rintro ⟨hmem, hname, hothers⟩
        refine ⟨List.mem_cons_of_mem _ hmem, hname, ?_⟩
        intro other hother hne
        rcases List.mem_cons.mp hother with rfl | hother
        · exact hfield
        · exact hothers other hother hne
      · rintro ⟨hmem, hname, hothers⟩
        refine ⟨?_, hname, fun other hother => hothers other (List.mem_cons_of_mem _ hother)⟩
        rcases List.mem_cons.mp hmem with rfl | hmem
        · rw [hfield] at hname
          cases hname
        · exact hmem
    | some found =>
      rw [List.filterMap_cons_some (b := (variant, found)) (by rw [hfield]; rfl)]
      refine ⟨?_, ?_⟩
      · intro h
        obtain ⟨hhead, htail⟩ := List.cons.inj h
        cases hhead
        refine ⟨List.mem_cons_self, hfield, ?_⟩
        intro other hother hne
        have hrest := List.filterMap_eq_nil_iff.mp htail other
          ((List.mem_cons.mp hother).resolve_left hne)
        simpa using hrest
      · rintro ⟨hmem, hname, hothers⟩
        have hvariant : variant = name := by
          by_contra hne
          rw [hothers variant List.mem_cons_self hne] at hfield
          cases hfield
        subst hvariant
        rw [hfield] at hname
        cases hname
        refine congrArg _ (List.filterMap_eq_nil_iff.mpr ?_)
        intro other hother
        have hne : other ≠ variant := fun heq => hnew (heq ▸ hother)
        rw [hothers other (List.mem_cons_of_mem _ hother) hne]
        rfl

theorem oneVariant_eq_ok_iff {part name : String} {variants : List String} {found : Value}
    (hnodup : variants.Nodup) :
    oneVariant part variants value = .ok (name, found) ↔
      ∃ entries, value = .map entries ∧ HasVariant entries variants name found := by
  cases value with
  | map entries =>
    simp only [Value.map.injEq, exists_eq_left', ← filterMap_field?_eq_singleton_iff hnodup,
      oneVariant]
    split
    · next only hfound => simp [hfound]
    · next hmany =>
      -- Whether or not the keys can be printed, this is a failure.
      simp only [fail, bind_eq_ok_iff, reduceCtorEq, and_false, exists_false, false_iff]
      exact hmany (name, found)
  | _ => simp [oneVariant, fail]

/-- The variants of a class test. -/
def classVariants : List String := ["exact", "regex"]

/-- The variants of a method test. -/
def methodVariants : List String := ["name", "regex", "signature"]

/-- What a class test is read from. -/
inductive IsClass : Value → ClassChoice → Prop where
  | mk {entries : Entries} {variant : String} {string : Text} :
      HasVariant entries classVariants variant (.str string) →
      IsClass (.map entries) ⟨variant, string⟩

theorem readClass_eq_ok_iff {choice : ClassChoice} :
    readClass value = .ok choice ↔ IsClass value choice := by
  unfold readClass
  simp only [bind_eq_ok_iff, Prod.exists]
  refine ⟨?_, ?_⟩
  · rintro ⟨variant, found, hfound, string, hstring, hchoice⟩
    obtain ⟨entries, rfl, hvariant⟩ := (oneVariant_eq_ok_iff (by decide)).mp hfound
    cases text_eq_ok_iff.mp hstring
    cases hchoice
    exact ⟨hvariant⟩
  · rintro ⟨hvariant⟩
    exact ⟨_, _, (oneVariant_eq_ok_iff (by decide)).mpr ⟨_, rfl, hvariant⟩, _,
      text_eq_ok_iff.mpr rfl, rfl⟩

/-! ## Signatures -/

/-- What the descriptor of a signature is taken from: a given text, or the names of types. -/
inductive HasDescriptor (parts : Entries) : Text → Prop where
  | given {descriptor : Text} :
      Value.field? parts "descriptor" = some (.str descriptor) →
      Value.field? parts "parameters" = none → Value.field? parts "returns" = none →
      HasDescriptor parts descriptor
  | derived {parameters : List Text} {result : Text} {descriptor : MethodDescriptor} :
      Value.field? parts "descriptor" = none →
      (Value.field? parts "parameters").getD (.list []) = .list (parameters.map .str) →
      (Value.field? parts "returns").getD (.str voidWord) = .str result →
      MethodDescriptor.ofTypeNames (parameters.map .written) (.written result) = .ok descriptor →
      HasDescriptor parts descriptor.text

theorem parameterNames?_eq_some_iff {parts : Entries} {names : List Text} :
    parameterNames? parts = some names ↔
      (Value.field? parts "parameters").getD (.list []) = .list (names.map .str) := by
  unfold parameterNames?
  split
  · next items hitems => rw [hitems, texts?_eq_some_iff, Value.list.injEq]
  · next hother => exact ⟨nofun, fun h => absurd h (hother _)⟩

/-- A method handle exists where the descriptor does, and carries it. -/
theorem map_descriptor_ofTypes (name : Text) (parameters : List TypeName) (result : TypeName) :
    (MethodHandle.ofTypes name parameters result).map MethodHandle.descriptor =
      MethodDescriptor.ofTypeNames parameters result := by
  unfold MethodHandle.ofTypes
  split <;> simp_all [Except.map]

theorem readDescriptor_of_given {parts : Entries} {name descriptor : Text} {given : Value}
    (hgiven : Value.field? parts "descriptor" = some given) :
    readDescriptor name parts = .ok descriptor ↔
      given = .str descriptor ∧ Value.field? parts "parameters" = none ∧
        Value.field? parts "returns" = none := by
  cases hparameters : Value.field? parts "parameters" with
  | some parameters => simp [readDescriptor, hgiven, Value.hasField, hparameters, fail]
  | none =>
    cases hreturns : Value.field? parts "returns" with
    | some returns => simp [readDescriptor, hgiven, Value.hasField, hparameters, hreturns, fail]
    | none =>
      simp [readDescriptor, hgiven, Value.hasField, hparameters, hreturns, text_eq_ok_iff]

theorem readDescriptor_of_absent {parts : Entries} {name descriptor : Text}
    (hgiven : Value.field? parts "descriptor" = none) :
    readDescriptor name parts = .ok descriptor ↔
      ∃ parameters result derived,
        parameterNames? parts = some parameters ∧
        (Value.field? parts "returns").getD (.str voidWord) = .str result ∧
        MethodDescriptor.ofTypeNames (parameters.map .written) (.written result) = .ok derived ∧
        descriptor = derived.text := by
  simp only [readDescriptor, hgiven]
  cases parameterNames? parts with
  | none => simp [fail]
  | some parameters =>
    simp only [bind_eq_ok_iff, text_eq_ok_iff, Option.some.injEq, exists_and_left, exists_eq_left']
    -- The reader goes through a handle, of which only the descriptor is kept.
    refine exists_congr fun result => and_congr_right fun _ => ?_
    rw [← map_descriptor_ofTypes name]
    cases MethodHandle.ofTypes name (parameters.map .written) (.written result) with
    | error error => simp [Except.map, throw, throwThe, MonadExceptOf.throw]
    | ok method => simp [Except.map, pure, Except.pure, eq_comm]

theorem readDescriptor_eq_ok_iff {parts : Entries} {name descriptor : Text} :
    readDescriptor name parts = .ok descriptor ↔ HasDescriptor parts descriptor := by
  cases hgiven : Value.field? parts "descriptor" with
  | some given =>
    rw [readDescriptor_of_given hgiven]
    refine ⟨?_, ?_⟩
    · rintro ⟨rfl, hparameters, hreturns⟩
      exact .given hgiven hparameters hreturns
    · rintro (⟨hsome, hparameters, hreturns⟩ | ⟨hnone, -, -, -⟩)
      · rw [hgiven] at hsome
        exact ⟨Option.some.inj hsome, hparameters, hreturns⟩
      · rw [hgiven] at hnone
        cases hnone
  | none =>
    rw [readDescriptor_of_absent hgiven]
    refine ⟨?_, ?_⟩
    · rintro ⟨parameters, result, derived, hparameters, hresult, hderived, rfl⟩
      exact .derived hgiven (parameterNames?_eq_some_iff.mp hparameters) hresult hderived
    · rintro (⟨hsome, -, -⟩ | ⟨-, hparameters, hresult, hderived⟩)
      · rw [hgiven] at hsome
        cases hsome
      · exact ⟨_, _, _, parameterNames?_eq_some_iff.mpr hparameters, hresult, hderived, rfl⟩

/-! ## Methods -/

/-- What a method test is read from. -/
inductive IsMethod : Value → MethodChoice → Prop where
  | plain {entries : Entries} {variant : String} {string : Text} :
      variant ≠ "signature" → HasVariant entries methodVariants variant (.str string) →
      IsMethod (.map entries) ⟨variant, string, none⟩
  | signature {entries parts : Entries} {name descriptor : Text} :
      HasVariant entries methodVariants "signature" (.map parts) →
      Value.field? parts "name" = some (.str name) → HasDescriptor parts descriptor →
      IsMethod (.map entries) ⟨"signature", name, some descriptor⟩

/-- A text that is missing is read as null, which is no text. -/
theorem getD_null_eq_str_iff {field : Option Value} {string : Text} :
    field.getD .null = .str string ↔ field = some (.str string) := by
  cases field <;> simp

theorem readSignature_eq_ok_iff {choice : MethodChoice} :
    readSignature value = .ok choice ↔
      ∃ parts name descriptor, value = .map parts ∧
        Value.field? parts "name" = some (.str name) ∧ HasDescriptor parts descriptor ∧
        choice = ⟨"signature", name, some descriptor⟩ := by
  cases value with
  | map parts =>
    simp only [readSignature, bind_eq_ok_iff, text_eq_ok_iff, readDescriptor_eq_ok_iff,
      getD_null_eq_str_iff, pure, Except.pure, Except.ok.injEq, Value.map.injEq]
    refine ⟨?_, ?_⟩
    · rintro ⟨name, hfield, descriptor, hdescriptor, rfl⟩
      exact ⟨parts, name, descriptor, rfl, hfield, hdescriptor, rfl⟩
    · rintro ⟨_, name, descriptor, rfl, hfield, hdescriptor, rfl⟩
      exact ⟨name, hfield, descriptor, hdescriptor, rfl⟩
  | _ => simp [readSignature, fail]

theorem readMethod_eq_ok_iff {choice : MethodChoice} :
    readMethod value = .ok choice ↔ IsMethod value choice := by
  unfold readMethod
  simp only [bind_eq_ok_iff, Prod.exists]
  refine ⟨?_, ?_⟩
  · rintro ⟨variant, found, hfound, h⟩
    obtain ⟨entries, rfl, hvariant⟩ := (oneVariant_eq_ok_iff (by decide)).mp hfound
    split at h
    · next hsignature =>
      subst hsignature
      obtain ⟨parts, name, descriptor, rfl, hname, hdescriptor, rfl⟩ :=
        readSignature_eq_ok_iff.mp h
      exact .signature hvariant hname hdescriptor
    · next hplain =>
      obtain ⟨string, hstring, hchoice⟩ := bind_eq_ok_iff.mp h
      cases text_eq_ok_iff.mp hstring
      cases hchoice
      exact .plain hplain hvariant
  · rintro (⟨hplain, hvariant⟩ | ⟨hvariant, hname, hdescriptor⟩)
    · refine ⟨_, _, (oneVariant_eq_ok_iff (by decide)).mpr ⟨_, rfl, hvariant⟩, ?_⟩
      rw [if_neg hplain]
      exact bind_eq_ok_iff.mpr ⟨_, text_eq_ok_iff.mpr rfl, rfl⟩
    · refine ⟨_, _, (oneVariant_eq_ok_iff (by decide)).mpr ⟨_, rfl, hvariant⟩, ?_⟩
      rw [if_pos rfl]
      exact readSignature_eq_ok_iff.mpr ⟨_, _, _, rfl, hname, hdescriptor, rfl⟩

/-! ## Documents -/

theorem readFormat_eq_ok_iff {format : NameFormat} :
    readFormat value = .ok format ↔ value = .str format.word := by
  have hword : ∀ word : Text, NameFormat.ofWord? word = some format ↔ word = format.word := by
    intro word
    refine ⟨?_, ?_⟩
    · intro h
      have heq := List.find?_some h
      exact (beq_iff_eq.mp heq).symm
    · rintro rfl
      exact NameFormat.ofWord?_word format
  have hvalue : NameFormat.ofValue? value = some format ↔ value = .str format.word := by
    cases value with
    | str word => rw [Value.str.injEq, ← hword, NameFormat.ofValue?]
    | _ => simp [NameFormat.ofValue?]
  rw [readFormat, ← hvalue]
  cases NameFormat.ofValue? value with
  | some found => simp
  | none => simp [fail, bind_eq_ok_iff]

/-- What a configuration is read from. -/
inductive IsConfig : Value → MatcherConfig → Prop where
  | allocations {entries : Entries} {name : Text} {format : NameFormat} :
      (Value.field? entries "class_name_format").getD (.str NameFormat.internal.word)
        = .str format.word →
      Value.field? entries "allocations" = some (.str name) →
      Value.field? entries "class" = none → Value.field? entries "method" = none →
      IsConfig (.map entries) ⟨⟨"exact", name⟩, ⟨"name", constructorName, none⟩, format⟩
  | pair {entries : Entries} {cls method : Value} {classes : ClassChoice}
      {methods : MethodChoice} {format : NameFormat} :
      (Value.field? entries "class_name_format").getD (.str NameFormat.internal.word)
        = .str format.word →
      Value.field? entries "allocations" = none →
      Value.field? entries "class" = some cls → IsClass cls classes →
      Value.field? entries "method" = some method → IsMethod method methods →
      IsConfig (.map entries) ⟨classes, methods, format⟩

theorem readAllocations_eq_ok_iff {format : NameFormat} {config : MatcherConfig} :
    readAllocations entries value format = .ok config ↔
      Value.field? entries "class" = none ∧ Value.field? entries "method" = none ∧
        ∃ name, value = .str name ∧
          config = ⟨⟨"exact", name⟩, ⟨"name", constructorName, none⟩, format⟩ := by
  cases hclass : Value.field? entries "class" with
  | some cls => simp [readAllocations, Value.hasField, hclass, fail]
  | none =>
    cases hmethod : Value.field? entries "method" with
    | some method => simp [readAllocations, Value.hasField, hclass, hmethod, fail]
    | none =>
      have hread : readAllocations entries value format = .ok config ↔
          ∃ name, text "allocations" value = .ok name ∧
            (⟨⟨"exact", name⟩, ⟨"name", constructorName, none⟩, format⟩ : MatcherConfig)
              = config := by
        simp [readAllocations, Value.hasField, hclass, hmethod, bind_eq_ok_iff, pure, Except.pure]
      simp only [hread, text_eq_ok_iff, true_and]
      exact exists_congr fun name => and_congr_right fun _ => eq_comm

/-- A value is read as a configuration exactly if it has the shape of one. -/
theorem ofValue_eq_ok_iff {config : MatcherConfig} :
    ofValue value = .ok config ↔ IsConfig value config := by
  refine ⟨?_, ?_⟩
  · intro h
    cases value with
    | map entries =>
      obtain ⟨format, hformat, h⟩ := bind_eq_ok_iff.mp h
      have hformat := readFormat_eq_ok_iff.mp hformat
      split at h
      · next value hallocations =>
        obtain ⟨hclass, hmethod, name, rfl, rfl⟩ := readAllocations_eq_ok_iff.mp h
        exact .allocations hformat hallocations hclass hmethod
      · next hallocations =>
        split at h
        · cases h
        · cases h
        · next cls method hclass hmethod =>
          obtain ⟨classes, hclasses, h⟩ := bind_eq_ok_iff.mp h
          obtain ⟨methods, hmethods, h⟩ := bind_eq_ok_iff.mp h
          cases h
          exact .pair hformat hallocations hclass (readClass_eq_ok_iff.mp hclasses) hmethod
            (readMethod_eq_ok_iff.mp hmethods)
    | _ => cases h
  · rintro (⟨hformat, hallocations, hclass, hmethod⟩ |
      ⟨hformat, hallocations, hclass, hclasses, hmethod, hmethods⟩)
    · refine bind_eq_ok_iff.mpr ⟨_, readFormat_eq_ok_iff.mpr hformat, ?_⟩
      rw [hallocations]
      exact readAllocations_eq_ok_iff.mpr ⟨hclass, hmethod, _, rfl, rfl⟩
    · refine bind_eq_ok_iff.mpr ⟨_, readFormat_eq_ok_iff.mpr hformat, ?_⟩
      rw [hallocations, hclass, hmethod]
      refine bind_eq_ok_iff.mpr ⟨_, readClass_eq_ok_iff.mpr hclasses, ?_⟩
      exact bind_eq_ok_iff.mpr ⟨_, readMethod_eq_ok_iff.mpr hmethods, rfl⟩

end MatcherConfig
end CallSites
