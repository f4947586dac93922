/-
  CallSites.Proofs.Descriptor.Derived

  Descriptors that are derived from the names of types. Splitting such a descriptor gives back what
  each of the names stands for, and a configuration whose descriptor is derived holds a legal one.
-/
import CallSites.Proofs.Config.Document
import CallSites.Proofs.Descriptor.Grammar
import CallSites.Proofs.Descriptor.TypeName

namespace CallSites

/-! ## The texts of type names -/

/-- The text that a type name stands for as a parameter. -/
def TypeName.fieldText (name : TypeName) : Except DescriptorError Text :=
  name.toFieldType.map FieldType.text

/-- The text that a type name stands for as a result. -/
def TypeName.resultText (name : TypeName) : Except DescriptorError Text :=
  name.toReturnType.map ReturnType.text

theorem forall₂_fieldText {names : List TypeName} {types : List FieldType}
    (h : List.Forall₂ (fun name type => name.toFieldType = .ok type) names types) :
    List.Forall₂ (fun name text => name.fieldText = .ok text) names
      (types.map FieldType.text) := by
  rw [List.forall₂_map_right_iff]
  refine h.imp ?_
  intro name type hname
  exact map_eq_ok_iff.mpr ⟨type, hname, rfl⟩

/-! ## Descriptors -/

namespace MethodDescriptor

/-- A descriptor is derived from names exactly if each of them stands for its type. -/
theorem ofTypeNames_eq_ok_iff {parameters : List TypeName} {result : TypeName}
    {descriptor : MethodDescriptor} :
    ofTypeNames parameters result = .ok descriptor ↔
      List.Forall₂ (fun name type => name.toFieldType = .ok type) parameters
        descriptor.parameters ∧
      result.toReturnType = .ok descriptor.result := by
  rw [← mapM_eq_ok_iff]
  unfold ofTypeNames
  cases parameters.mapM TypeName.toFieldType with
  | error error => simp
  | ok types =>
    cases result.toReturnType with
    | error error => simp
    | ok type =>
      obtain ⟨types', type'⟩ := descriptor
      simp

theorem split_text (descriptor : MethodDescriptor) :
    split descriptor.text = .ok descriptor.parts := by
  rw [split, read_text]
  rfl

end MethodDescriptor

/-! ## Documents -/

/-- The value that is reached from a value along keys. -/
def Value.at? : Value → List String → Option Value
  | value, [] => some value
  | .map entries, key :: keys => (field? entries key).bind (at? · keys)
  | _, _ :: _ => none

/-- A descriptor that a configuration has without being given it is derived. -/
theorem MatcherConfig.exists_derived {document : Value} {config : MatcherConfig}
    {descriptor : Text} (hconfig : ofValue document = .ok config)
    (hdescriptor : config.methods.descriptor = some descriptor)
    (hgiven : document.at? ["method", "signature", "descriptor"] = none) :
    ∃ derived : MethodDescriptor, descriptor = derived.text := by
  rcases ofValue_eq_ok_iff.mp hconfig with
    ⟨-, -, -, -⟩ | ⟨-, -, -, -, hmethod, ⟨-, -⟩ | ⟨hvariant, -, hhas⟩⟩
  · cases hdescriptor
  · cases hdescriptor
  · cases hdescriptor
    rcases hhas with ⟨hfield, -, -⟩ | ⟨-, -, -, -⟩
    · simp [Value.at?, hmethod, hvariant.field, hfield] at hgiven
    · exact ⟨_, rfl⟩

/-- Splitting undoes deriving: the parts of a derived descriptor are the texts of its names, in
    order. So the descriptors of method handles are legal, and so are those of configurations that
    are not given one. -/
theorem split_derived_descriptor :
    (∀ parameters result descriptor,
      MethodDescriptor.ofTypeNames parameters result = .ok descriptor →
      ∃ texts text, MethodDescriptor.split descriptor.text = .ok (texts, text) ∧
        List.Forall₂ (fun name text => TypeName.fieldText name = .ok text) parameters texts ∧
        TypeName.resultText result = .ok text) ∧
    (∀ name parameters result method,
      MethodHandle.ofTypes name parameters result = .ok method →
      isMethodDescriptor method.descriptor.text = true) ∧
    (∀ document config descriptor, MatcherConfig.ofValue document = .ok config →
      config.methods.descriptor = some descriptor →
      document.at? ["method", "signature", "descriptor"] = none →
      isMethodDescriptor descriptor = true) := by
  refine ⟨?_, ?_, ?_⟩
  · intro parameters result descriptor h
    obtain ⟨hparameters, hresult⟩ := MethodDescriptor.ofTypeNames_eq_ok_iff.mp h
    exact ⟨_, _, MethodDescriptor.split_text descriptor, forall₂_fieldText hparameters,
      map_eq_ok_iff.mpr ⟨_, hresult, rfl⟩⟩
  · intro _ _ _ method _
    exact isMethodDescriptor_text method.descriptor
  · intro document config descriptor hconfig hdescriptor hgiven
    obtain ⟨derived, rfl⟩ := MatcherConfig.exists_derived hconfig hdescriptor hgiven
    exact isMethodDescriptor_text derived

/-- A class name with a bracket inside it comes back from between two other parts, also through a
    handle and a document. -/
theorem split_derived_descriptor_bracket :
    ∃ descriptor method config,
      MethodDescriptor.ofTypeNames (List.map .written ["int[]", "a].b[][]", "long"])
        (.written "void") = .ok descriptor ∧
      descriptor.text = "([I[[La]/b;J)V" ∧
      (∃ texts text, MethodDescriptor.split descriptor.text = .ok (texts, text) ∧
        List.Forall₂ (fun name text => TypeName.fieldText name = .ok text)
          (List.map .written ["int[]", "a].b[][]", "long"]) texts ∧
        TypeName.resultText (.written "void") = .ok text) ∧
      MethodHandle.ofTypes "run" (List.map .written ["int[]", "a].b[][]", "long"])
        (.written "void") = .ok method ∧
      isMethodDescriptor method.descriptor.text = true ∧
      MatcherConfig.ofValue (MatcherConfig.pairDocument .internal ("exact", .str "A")
        ("signature", MatcherConfig.signatureOfTypes "run" ["int[]", "a].b[][]", "long"] "void"))
          = .ok config ∧
      config.methods.descriptor = some descriptor.text ∧
      isMethodDescriptor descriptor.text = true := by
  have htext : (MethodDescriptor.ofTypeNames (List.map .written ["int[]", "a].b[][]", "long"])
      (.written "void")).map MethodDescriptor.text = .ok "([I[[La]/b;J)V" := by cbv
  obtain ⟨descriptor, hderived, htext⟩ := map_eq_ok_iff.mp htext
  obtain ⟨method, hmethod, -⟩ := MethodHandle.exists_ofTypes "run" hderived
  have hshape := MatcherConfig.isConfig_pairDocument .internal (MatcherConfig.isClass_exact "A")
    (MatcherConfig.isMethod_signatureOfTypes "run" hderived)
  have hconfig := MatcherConfig.ofValue_eq_ok_iff.mpr hshape
  refine ⟨descriptor, method, _, hderived, htext,
    split_derived_descriptor.1 _ _ descriptor hderived, hmethod,
    split_derived_descriptor.2.1 _ _ _ method hmethod, hconfig, rfl, ?_⟩
  exact split_derived_descriptor.2.2 _ _ _ hconfig rfl (by cbv)

end CallSites
