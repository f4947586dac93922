/-
  CallSites.Proofs.Config.Document

  The documents of the common matchers, written from plain names, and what is read from them.
-/
import CallSites.Proofs.Config.Shape

namespace CallSites

/-! ## The documents -/

/-- A mapping with text keys. -/
def Value.ofFields (fields : List (String × Value)) : Value :=
  .map (fields.map fun field => (.str field.1, field.2))

namespace MatcherConfig

/-- The document for the constructors of a class. -/
def allocationsDocument (format : NameFormat) (cls : Text) : Value :=
  .ofFields [("class_name_format", .str format.word), ("allocations", .str cls)]

/-- The document of a class test and a method test, by their variants. -/
def pairDocument (format : NameFormat) (cls method : String × Value) : Value :=
  .ofFields [("class_name_format", .str format.word), ("class", .ofFields [cls]),
    ("method", .ofFields [method])]

/-- The signature of a method by the names of its types. -/
def signatureOfTypes (name : Text) (parameters : List Text) (result : Text) : Value :=
  .ofFields [("name", .str name), ("parameters", .list (parameters.map .str)),
    ("returns", .str result)]

/-- The signature of a method by its descriptor. -/
def signatureOfDescriptor (name descriptor : Text) : Value :=
  .ofFields [("name", .str name), ("descriptor", .str descriptor)]

theorem isConfig_allocationsDocument (format : NameFormat) (cls : Text) :
    IsConfig (allocationsDocument format cls)
      ⟨⟨"exact", cls⟩, ⟨"name", constructorName, none⟩, format⟩ := by
  apply IsConfig.allocations <;> simp [Value.field?]

theorem isConfig_pairDocument (format : NameFormat) {cls method : String × Value}
    {classes : ClassChoice} {methods : MethodChoice} (hclass : IsClass (.ofFields [cls]) classes)
    (hmethod : IsMethod (.ofFields [method]) methods) :
    IsConfig (pairDocument format cls method) ⟨classes, methods, format⟩ := by
  refine IsConfig.pair ?_ ?_ ?_ hclass ?_ hmethod <;> simp [Value.field?]

/-- A mapping with one entry has one variant. -/
theorem hasVariant_singleton {variants : List String} {name : String} (value : Value)
    (hmem : name ∈ variants) : HasVariant [(.str name, value)] variants name value where
  mem := hmem
  field := by simp [Value.field?]
  others := by
    intro other _ hne
    simp [Value.field?, Ne.symm hne]

theorem isClass_exact (name : Text) :
    IsClass (.ofFields [("exact", .str name)]) ⟨"exact", name⟩ :=
  ⟨hasVariant_singleton _ (by simp [classVariants])⟩

theorem isClass_regex (pattern : Text) :
    IsClass (.ofFields [("regex", .str pattern)]) ⟨"regex", pattern⟩ :=
  ⟨hasVariant_singleton _ (by simp [classVariants])⟩

theorem isMethod_name (name : Text) :
    IsMethod (.ofFields [("name", .str name)]) ⟨"name", name, none⟩ :=
  .plain (by decide) (hasVariant_singleton _ (by simp [methodVariants]))

theorem isMethod_regex (pattern : Text) :
    IsMethod (.ofFields [("regex", .str pattern)]) ⟨"regex", pattern, none⟩ :=
  .plain (by decide) (hasVariant_singleton _ (by simp [methodVariants]))

theorem isMethod_signatureOfTypes (name : Text) {result : Text} {parameters : List Text}
    {descriptor : MethodDescriptor}
    (h : MethodDescriptor.ofTypeNames (parameters.map .written) (.written result)
      = .ok descriptor) :
    IsMethod (.ofFields [("signature", signatureOfTypes name parameters result)])
      ⟨"signature", name, some descriptor.text⟩ := by
  refine .signature (hasVariant_singleton _ (by simp [methodVariants])) (by simp [Value.field?]) ?_
  refine .derived ?_ ?_ ?_ h <;> simp [Value.field?]

theorem isMethod_signatureOfDescriptor (name descriptor : Text) :
    IsMethod (.ofFields [("signature", signatureOfDescriptor name descriptor)])
      ⟨"signature", name, some descriptor⟩ := by
  refine .signature (hasVariant_singleton _ (by simp [methodVariants])) (by simp [Value.field?]) ?_
  refine .given ?_ ?_ ?_ <;> simp [Value.field?]

end MatcherConfig
end CallSites
