/-
  CallSites.Proofs.Config.Reading

  How reading a configuration can fail. A value without the shape of a configuration has a fault in
  it, which is reported as such. There are two other failures: a value in which nothing is wrong but
  the type names of a signature, so that it has no descriptor, and a fault whose message would quote
  an integer that is too long to be written. The shapes of the values that are read are in
  `CallSites.Proofs.Config.Shape`.
-/
import CallSites.Proofs.Config.Document
import CallSites.Proofs.Document.Printing

namespace CallSites

/-! ## Failures of reading -/

/-- The failures of reading: a fault in the shape, type names without a descriptor, or a fault that
    cannot be told because of an integer in it. -/
inductive MatcherError.IsOfReading (illegal : DescriptorError → Prop) (quoted : Prop) :
    MatcherError → Prop
  | shape (fault : ConfigFault) : IsOfReading illegal quoted (.config fault)
  | types {error : DescriptorError} :
    illegal error → IsOfReading illegal quoted (.invalidDescriptor error)
  | printing : quoted → IsOfReading illegal quoted (.raised Decimal.unwritable)

theorem MatcherError.IsOfReading.imp {illegal other : DescriptorError → Prop} {quoted more : Prop}
    {error : MatcherError} (h : error.IsOfReading illegal quoted)
    (hillegal : ∀ cause, illegal cause → other cause) (hquoted : quoted → more) :
    error.IsOfReading other more := by
  cases h with
  | shape fault => exact .shape fault
  | types htypes => exact .types (hillegal _ htypes)
  | printing hlong => exact .printing (hquoted hlong)

namespace MatcherConfig

variable {entries : Entries} {value : Value} {illegal : DescriptorError → Prop} {quoted : Prop}

theorem ensures_fail {α : Type} {result : α → Prop} (fault : ConfigFault) :
    Ensures (fail fault) result (MatcherError.IsOfReading illegal quoted) :=
  .of_error (.shape fault)

/-- A fault that quotes what was printed cannot be told if that fails. -/
theorem isOfReading_of_printing {α β : Type} {outcome : Except Exception α} {error : MatcherError}
    {fault : α → ConfigFault} (h : Printed quoted outcome)
    (herror : (printing outcome >>= fun printed => fail (fault printed))
      = (.error error : Except MatcherError β)) :
    error.IsOfReading illegal quoted := by
  cases h with
  | ok printed _ =>
    cases herror
    exact .shape (fault printed)
  | error hlong =>
    cases herror
    exact .printing hlong

/-! ## Texts and variants -/

theorem ensures_text (what : String) (value : Value) :
    Ensures (text what value) (fun string => value = .str string)
      (MatcherError.IsOfReading illegal quoted) := by
  cases value with
  | str string => exact .of_ok rfl
  | _ => exact ensures_fail _

/-- The mapping has none of the variants or several, and a key that is too long to be listed. -/
structure HasUnlistedKeys (variants : List String) (entries : Entries) : Prop where
  variant : ∀ name found, ¬ HasVariant entries variants name found
  key : HasLongKey entries

/-- The value is such a mapping. -/
inductive IsUnlisted (variants : List String) : Value → Prop where
  | mk {entries : Entries} : HasUnlistedKeys variants entries → IsUnlisted variants (.map entries)

theorem oneVariant_of_isUnlisted (part : String) {variants : List String} (hnodup : variants.Nodup)
    (h : IsUnlisted variants value) :
    oneVariant part variants value = .error (.raised Decimal.unwritable) := by
  obtain ⟨hvariant, hkey⟩ := h
  have hkeys : keyTexts _ = .error Decimal.unwritable :=
    (printed_keyTexts _).eq_error_iff.mpr ⟨rfl, hkey⟩
  rw [oneVariant]
  split
  · next found hfound =>
    exact absurd ((filterMap_field?_eq_singleton_iff hnodup).mp hfound) (hvariant _ _)
  · rw [hkeys]
    rfl

theorem ensures_oneVariant (part : String) {variants : List String} (hnodup : variants.Nodup)
    (value : Value) :
    Ensures (oneVariant part variants value)
      (fun found => ∃ entries, value = .map entries ∧
        HasVariant entries variants found.1 found.2)
      (MatcherError.IsOfReading illegal (IsUnlisted variants value)) := by
  refine ⟨fun found hfound => (oneVariant_eq_ok_iff hnodup).mp hfound, ?_⟩
  cases value with
  | map entries =>
    by_cases hone : ∃ name found, HasVariant entries variants name found
    · obtain ⟨name, found, hvariant⟩ := hone
      have hok : oneVariant part variants (.map entries) = .ok (name, found) :=
        (oneVariant_eq_ok_iff hnodup).mpr ⟨entries, rfl, hvariant⟩
      rw [hok]
      exact nofun
    -- No variant or several: the message lists the keys, and listing them may fail.
    · have hmany (found : String × Value) :
          variants.filterMap (fun name => (Value.field? entries name).map (name, ·)) ≠ [found] := by
        intro hfound
        exact hone ⟨_, _, (filterMap_field?_eq_singleton_iff hnodup).mp hfound⟩
      have hunlisted : HasLongKey entries ↔ IsUnlisted variants (.map entries) := by
        refine ⟨fun hkey => .mk ⟨fun name found hvariant => hone ⟨name, found, hvariant⟩, hkey⟩, ?_⟩
        rintro ⟨h⟩
        exact h.key
      intro error herror
      rw [oneVariant] at herror
      split at herror
      · next found hfound => exact absurd hfound (hmany found)
      · exact isOfReading_of_printing ((printed_keyTexts entries).congr hunlisted) herror
  | _ =>
    intro error herror
    cases herror
    exact .shape _

theorem ensures_readClass (value : Value) :
    Ensures (readClass value) (IsClass value)
      (MatcherError.IsOfReading illegal (IsUnlisted classVariants value)) := by
  refine ⟨fun choice hchoice => readClass_eq_ok_iff.mp hchoice, ?_⟩
  have hread : Ensures (readClass value) (fun _ => True)
      (MatcherError.IsOfReading illegal (IsUnlisted classVariants value)) := by
    refine (ensures_oneVariant "class" (by decide) value).bind ?_
    rintro ⟨variant, found⟩ -
    exact (ensures_text _ found).bind fun _ _ => .of_ok trivial
  exact hread.error

theorem readClass_of_isUnlisted (h : IsUnlisted classVariants value) :
    readClass value = .error (.raised Decimal.unwritable) := by
  have hclass : oneVariant "class" ["exact", "regex"] value = _ :=
    oneVariant_of_isUnlisted "class" (by decide) h
  rw [readClass, hclass, error_bind]

/-- The value is no format, and too long to be quoted. -/
structure IsUnquotedFormat (value : Value) : Prop where
  unknown : ∀ format : NameFormat, value ≠ .str format.word
  long : value.HoldsLongInteger

theorem readFormat_of_isUnquotedFormat (h : IsUnquotedFormat value) :
    readFormat value = .error (.raised Decimal.unwritable) := by
  have hshown : value.shown = .error Decimal.unwritable :=
    (Value.printed_shown value).eq_error_iff.mpr ⟨rfl, h.long⟩
  cases hformat : readFormat value with
  | ok format => exact absurd (readFormat_eq_ok_iff.mp hformat) (h.unknown format)
  | error error =>
    rw [readFormat] at hformat
    split at hformat
    · cases hformat
    · rw [hshown] at hformat
      exact hformat.symm

theorem ensures_readFormat (value : Value) :
    Ensures (readFormat value) (fun format => value = .str format.word)
      (MatcherError.IsOfReading illegal (IsUnquotedFormat value)) := by
  refine ⟨fun format hformat => readFormat_eq_ok_iff.mp hformat, ?_⟩
  by_cases hformat : ∃ format : NameFormat, value = .str format.word
  · obtain ⟨format, hformat⟩ := hformat
    rw [readFormat_eq_ok_iff.mpr hformat]
    exact nofun
  · have hunquoted : value.HoldsLongInteger ↔ IsUnquotedFormat value :=
      ⟨fun hlong => ⟨fun format heq => hformat ⟨format, heq⟩, hlong⟩, IsUnquotedFormat.long⟩
    intro error herror
    rw [readFormat] at herror
    split at herror
    · cases herror
    · exact isOfReading_of_printing ((Value.printed_shown value).congr hunquoted) herror

/-! ## Signatures -/

/-- The signature is one of type names that have no descriptor. -/
inductive HasIllegalTypes (parts : Entries) : DescriptorError → Prop where
  | mk {parameters : List Text} {result : Text} {error : DescriptorError} :
      Value.field? parts "descriptor" = none →
      (Value.field? parts "parameters").getD (.list []) = .list (parameters.map .str) →
      (Value.field? parts "returns").getD (.str voidWord) = .str result →
      MethodDescriptor.ofTypeNames (parameters.map .written) (.written result) = .error error →
      HasIllegalTypes parts error

theorem ofTypes_eq_error_iff {name : Text} {parameters : List TypeName} {result : TypeName}
    {error : DescriptorError} :
    MethodHandle.ofTypes name parameters result = .error error ↔
      MethodDescriptor.ofTypeNames parameters result = .error error := by
  rw [← map_descriptor_ofTypes name]
  cases MethodHandle.ofTypes name parameters result <;> simp [Except.map]

theorem readDescriptor_of_hasIllegalTypes {parts : Entries} (name : Text)
    {error : DescriptorError} (h : HasIllegalTypes parts error) :
    readDescriptor name parts = .error (.invalidDescriptor error) := by
  obtain ⟨hgiven, hparameters, hresult, hderived⟩ := h
  simp only [readDescriptor, hgiven, parameterNames?_eq_some_iff.mpr hparameters, hresult, text,
    ok_bind, ofTypes_eq_error_iff.mpr hderived]
  rfl

theorem ensures_readDescriptor_parts (name : Text) (parts : Entries) :
    Ensures (readDescriptor name parts) (HasDescriptor parts)
      (MatcherError.IsOfReading (HasIllegalTypes parts) False) := by
  refine ⟨fun descriptor hread => readDescriptor_eq_ok_iff.mp hread, ?_⟩
  have hread : Ensures (readDescriptor name parts) (fun _ => True)
      (MatcherError.IsOfReading (HasIllegalTypes parts) False) := by
    cases hgiven : Value.field? parts "descriptor" with
    | some given =>
      simp only [readDescriptor, hgiven]
      split
      · exact ensures_fail _
      · exact ⟨fun _ _ => trivial, (ensures_text _ given).error⟩
    | none =>
      simp only [readDescriptor, hgiven]
      cases hparameters : parameterNames? parts with
      | none => exact ensures_fail _
      | some parameters =>
        -- The texts are known to be names here, so only their types can be at fault.
        refine (ensures_text _ _).bind fun result hresult => ?_
        cases htypes : MethodHandle.ofTypes name (parameters.map .written) (.written result) with
        | ok method => exact .of_ok trivial
        | error error =>
          exact .of_error (.types ⟨hgiven, parameterNames?_eq_some_iff.mp hparameters, hresult,
            ofTypes_eq_error_iff.mp htypes⟩)
  exact hread.error

/-! ## Methods -/

/-- The method test is a signature of type names that have no descriptor. -/
inductive IsMethodOfIllegalTypes : Value → DescriptorError → Prop where
  | mk {entries parts : Entries} {name : Text} {error : DescriptorError} :
      HasVariant entries methodVariants "signature" (.map parts) →
      Value.field? parts "name" = some (.str name) → HasIllegalTypes parts error →
      IsMethodOfIllegalTypes (.map entries) error

theorem readSignature_of_hasIllegalTypes {parts : Entries} {name : Text}
    {error : DescriptorError} (hname : Value.field? parts "name" = some (.str name))
    (h : HasIllegalTypes parts error) :
    readSignature (.map parts) = .error (.invalidDescriptor error) := by
  simp only [readSignature, hname, Option.getD_some, text, ok_bind,
    readDescriptor_of_hasIllegalTypes name h, error_bind]

theorem readMethod_of_illegalTypes {error : DescriptorError}
    (h : IsMethodOfIllegalTypes value error) :
    readMethod value = .error (.invalidDescriptor error) := by
  obtain ⟨hvariant, hname, htypes⟩ := h
  have hfound : oneVariant "method" methodVariants _ = .ok ("signature", _) :=
    (oneVariant_eq_ok_iff (by decide)).mpr ⟨_, rfl, hvariant⟩
  rw [methodVariants] at hfound
  rw [readMethod, hfound, ok_bind]
  exact (if_pos rfl).trans (readSignature_of_hasIllegalTypes hname htypes)

theorem readMethod_of_isUnlisted (h : IsUnlisted methodVariants value) :
    readMethod value = .error (.raised Decimal.unwritable) := by
  have hmethod : oneVariant "method" ["name", "regex", "signature"] value = _ :=
    oneVariant_of_isUnlisted "method" (by decide) h
  rw [readMethod, hmethod, error_bind]

theorem ensures_readMethod (value : Value) :
    Ensures (readMethod value) (IsMethod value)
      (MatcherError.IsOfReading (IsMethodOfIllegalTypes value)
        (IsUnlisted methodVariants value)) := by
  refine ⟨fun choice hchoice => readMethod_eq_ok_iff.mp hchoice, ?_⟩
  have hread : Ensures (readMethod value) (fun _ => True)
      (MatcherError.IsOfReading (IsMethodOfIllegalTypes value)
        (IsUnlisted methodVariants value)) := by
    refine (ensures_oneVariant "method" (by decide) value).bind ?_
    rintro ⟨variant, found⟩ ⟨entries, rfl, hvariant⟩
    by_cases hsignature : variant = "signature"
    · cases hsignature
      cases found with
      | map parts =>
        refine (ensures_text _ _).bind fun name hname => ?_
        have hname := getD_null_eq_str_iff.mp hname
        refine ((ensures_readDescriptor_parts name parts).weaken fun error herror => ?_).bind
          fun _ _ => .of_ok trivial
        exact herror.imp (fun cause htypes => ⟨hvariant, hname, htypes⟩) False.elim
      | _ => exact ensures_fail _
    · simp only [hsignature, if_false]
      exact (ensures_text _ found).bind fun _ _ => .of_ok trivial
  exact hread.error

/-! ## Documents -/

/-- The value has the shape of a configuration, except that the type names of its signature have no
    descriptor. -/
inductive IsConfigOfIllegalTypes : Value → DescriptorError → Prop where
  | mk {entries : Entries} {cls method : Value} {classes : ClassChoice} {format : NameFormat}
      {error : DescriptorError} :
      (Value.field? entries "class_name_format").getD (.str NameFormat.internal.word)
        = .str format.word →
      Value.field? entries "allocations" = none →
      Value.field? entries "class" = some cls → IsClass cls classes →
      Value.field? entries "method" = some method → IsMethodOfIllegalTypes method error →
      IsConfigOfIllegalTypes (.map entries) error

theorem ofValue_of_illegalTypes {error : DescriptorError}
    (h : IsConfigOfIllegalTypes value error) :
    ofValue value = .error (.invalidDescriptor error) := by
  obtain ⟨hformat, hallocations, hclass, hclasses, hmethod, hmethods⟩ := h
  simp only [ofValue, readFormat_eq_ok_iff.mpr hformat, hallocations, hclass, hmethod,
    readClass_eq_ok_iff.mpr hclasses, readMethod_of_illegalTypes hmethods, ok_bind, error_bind]

/-- Reading the value fails on the way to a message which would quote an integer that is too long to
    be written: in what should be a format, or among the keys of a class or method test that has
    not one variant. Everything that is checked before is in order. -/
inductive QuotesLongInteger : Value → Prop where
  | format {entries : Entries} {value : Value} :
      Value.field? entries "class_name_format" = some value → IsUnquotedFormat value →
      QuotesLongInteger (.map entries)
  | cls {entries : Entries} {cls method : Value} {format : NameFormat} :
      (Value.field? entries "class_name_format").getD (.str NameFormat.internal.word)
        = .str format.word →
      Value.field? entries "allocations" = none →
      Value.field? entries "class" = some cls → IsUnlisted classVariants cls →
      Value.field? entries "method" = some method →
      QuotesLongInteger (.map entries)
  | method {entries : Entries} {cls method : Value} {classes : ClassChoice} {format : NameFormat} :
      (Value.field? entries "class_name_format").getD (.str NameFormat.internal.word)
        = .str format.word →
      Value.field? entries "allocations" = none →
      Value.field? entries "class" = some cls → IsClass cls classes →
      Value.field? entries "method" = some method → IsUnlisted methodVariants method →
      QuotesLongInteger (.map entries)

theorem ofValue_of_quotesLongInteger (h : QuotesLongInteger value) :
    ofValue value = .error (.raised Decimal.unwritable) := by
  cases h with
  | format hformat hunquoted =>
    simp only [ofValue, hformat, Option.getD_some, readFormat_of_isUnquotedFormat hunquoted,
      error_bind]
  | cls hformat hallocations hclass hunlisted hmethod =>
    simp only [ofValue, readFormat_eq_ok_iff.mpr hformat, hallocations, hclass, hmethod,
      readClass_of_isUnlisted hunlisted, ok_bind, error_bind]
  | method hformat hallocations hclass hclasses hmethod hunlisted =>
    simp only [ofValue, readFormat_eq_ok_iff.mpr hformat, hallocations, hclass, hmethod,
      readClass_eq_ok_iff.mpr hclasses, readMethod_of_isUnlisted hunlisted, ok_bind, error_bind]

theorem quotesLongInteger_of_format
    (h : IsUnquotedFormat ((Value.field? entries "class_name_format").getD
      (.str NameFormat.internal.word))) : QuotesLongInteger (.map entries) := by
  cases hformat : Value.field? entries "class_name_format" with
  | none =>
    rw [hformat] at h
    exact absurd rfl (h.unknown .internal)
  | some value =>
    rw [hformat] at h
    exact .format hformat h

theorem ensures_readFormat_entries (entries : Entries) :
    Ensures
      (readFormat ((Value.field? entries "class_name_format").getD (.str NameFormat.internal.word)))
      (fun format => (Value.field? entries "class_name_format").getD
        (.str NameFormat.internal.word) = .str format.word)
      (MatcherError.IsOfReading illegal (QuotesLongInteger (.map entries))) := by
  have herrors (error : MatcherError) (herror : error.IsOfReading illegal (IsUnquotedFormat
      ((Value.field? entries "class_name_format").getD (.str NameFormat.internal.word)))) :
      error.IsOfReading illegal (QuotesLongInteger (.map entries)) :=
    herror.imp (fun _ => id) quotesLongInteger_of_format
  exact (ensures_readFormat _).weaken herrors

theorem ensures_ofValue (value : Value) :
    Ensures (ofValue value) (IsConfig value)
      (MatcherError.IsOfReading (IsConfigOfIllegalTypes value) (QuotesLongInteger value)) := by
  refine ⟨fun config hconfig => ofValue_eq_ok_iff.mp hconfig, ?_⟩
  have hread : Ensures (ofValue value) (fun _ => True)
      (MatcherError.IsOfReading (IsConfigOfIllegalTypes value) (QuotesLongInteger value)) := by
    cases value with
    | map entries =>
      refine (ensures_readFormat_entries entries).bind fun format hformat => ?_
      -- The key for allocations counts before the other two, which must both be there without it.
      cases hallocations : Value.field? entries "allocations" with
      | some found =>
        simp only [readAllocations]
        split
        · exact ensures_fail _
        · exact (ensures_text _ found).bind fun _ _ => .of_ok trivial
      | none =>
        cases hclass : Value.field? entries "class" with
        | none => exact ensures_fail _
        | some cls =>
          cases hmethod : Value.field? entries "method" with
          | none => exact ensures_fail _
          | some method =>
            have hclassErrors (error : MatcherError)
                (herror : error.IsOfReading (fun _ => False) (IsUnlisted classVariants cls)) :
                error.IsOfReading (IsConfigOfIllegalTypes (.map entries))
                  (QuotesLongInteger (.map entries)) :=
              herror.imp (fun _ => False.elim) fun hunlisted =>
                .cls hformat hallocations hclass hunlisted hmethod
            refine ((ensures_readClass cls).weaken hclassErrors).bind fun classes hclasses => ?_
            refine ((ensures_readMethod method).weaken fun error herror => ?_).bind
              fun _ _ => .of_ok trivial
            exact herror.imp (fun cause hmethods =>
                ⟨hformat, hallocations, hclass, hclasses, hmethod, hmethods⟩)
              fun hunlisted => .method hformat hallocations hclass hclasses hmethod hunlisted
    | _ => exact ensures_fail _
  exact hread.error

theorem ofValue_eq_raised_iff {exception : Exception} :
    ofValue value = .error (.raised exception) ↔
      exception = Decimal.unwritable ∧ QuotesLongInteger value := by
  refine ⟨?_, ?_⟩
  · intro herror
    cases (ensures_ofValue value).error _ herror with
    | printing hlong => exact ⟨rfl, hlong⟩
  · rintro ⟨rfl, hlong⟩
    exact ofValue_of_quotesLongInteger hlong

/-- Only a signature has a descriptor. -/
theorem IsConfig.descriptor_isSome_iff {config : MatcherConfig} (h : IsConfig value config) :
    config.methods.descriptor.isSome = true ↔ config.methods.variant = "signature" := by
  cases h with
  | allocations => simp
  | pair _ _ _ _ _ hmethods =>
    cases hmethods with
    | plain hplain => simp [hplain]
    | signature => simp

/-- A value is read exactly if it has the shape of a configuration, and what is read are the parts
    that the shape names, with a descriptor exactly if there is a signature. The type names of a
    signature are at fault exactly if all the rest of the value has that shape and they have no
    descriptor. Every other value is refused for a fault in its shape, except where the message for
    it would quote an integer that is too long to be written: then an exception is raised instead,
    and always the same one. -/
theorem read_exactly_if_shaped (value : Value) :
    (∀ config, ofValue value = .ok config ↔ IsConfig value config) ∧
    (∀ config, IsConfig value config →
      (config.methods.descriptor.isSome = true ↔ config.methods.variant = "signature")) ∧
    (∀ error, ofValue value = .error (.invalidDescriptor error) ↔
      IsConfigOfIllegalTypes value error) ∧
    ((∃ fault, ofValue value = .error (.config fault)) ↔
      (¬ ∃ config, IsConfig value config) ∧ (¬ ∃ error, IsConfigOfIllegalTypes value error) ∧
        ¬ QuotesLongInteger value) ∧
    ∀ exception, ofValue value = .error (.raised exception) ↔
      exception = Decimal.unwritable ∧ QuotesLongInteger value := by
  have hensures := ensures_ofValue value
  refine ⟨fun config => ofValue_eq_ok_iff, fun config hconfig => hconfig.descriptor_isSome_iff,
    ?_, ?_, fun exception => ofValue_eq_raised_iff⟩
  · refine fun error => ⟨?_, ofValue_of_illegalTypes⟩
    intro herror
    -- Every error is one of a few, and each kind says what the value looks like.
    cases hensures.error _ herror with
    | types htypes => exact htypes
  · refine ⟨?_, ?_⟩
    · rintro ⟨fault, hfault⟩
      refine ⟨?_, ?_, ?_⟩
      · rintro ⟨config, hconfig⟩
        rw [ofValue_eq_ok_iff.mpr hconfig] at hfault
        cases hfault
      · rintro ⟨error, htypes⟩
        rw [ofValue_of_illegalTypes htypes] at hfault
        cases hfault
      · intro hlong
        rw [ofValue_of_quotesLongInteger hlong] at hfault
        cases hfault
    · rintro ⟨hconfig, htypes, hlong⟩
      cases hvalue : ofValue value with
      | ok config => exact absurd ⟨config, ofValue_eq_ok_iff.mp hvalue⟩ hconfig
      | error error =>
        cases hensures.error error hvalue with
        | shape fault => exact ⟨fault, rfl⟩
        | types hillegal => exact absurd ⟨_, hillegal⟩ htypes
        | printing hquoted => exact absurd hquoted hlong

/-- A document with a signature, one with `void` as a parameter, and one that is empty. -/
theorem read_exactly_if_shaped_signatures :
    (∃ config, IsConfig (pairDocument .canonical ("exact", .str "a.B")
        ("signature", signatureOfTypes "run" ["int[]"] "void")) config ∧
      (config.methods.descriptor.isSome = true ↔ config.methods.variant = "signature") ∧
      ofValue (pairDocument .canonical ("exact", .str "a.B")
        ("signature", signatureOfTypes "run" ["int[]"] "void")) = .ok config) ∧
    ofValue (pairDocument .canonical ("exact", .str "a.B")
        ("signature", signatureOfTypes "run" ["void"] "int")) =
      .error (.invalidDescriptor ⟨"void", .misplacedVoid⟩) ∧
    ∃ fault, ofValue .null = .error (.config fault) := by
  refine ⟨?_, ?_, ?_⟩
  · have htext : (MethodDescriptor.ofTypeNames (List.map .written ["int[]"])
        (.written "void")).map MethodDescriptor.text = .ok "([I)V" := by cbv
    obtain ⟨descriptor, hderived, -⟩ := map_eq_ok_iff.mp htext
    have hconfig := isConfig_pairDocument .canonical (isClass_exact "a.B")
      (isMethod_signatureOfTypes "run" hderived)
    exact ⟨_, hconfig, (read_exactly_if_shaped _).2.1 _ hconfig,
      ((read_exactly_if_shaped _).1 _).mpr hconfig⟩
  · refine ((read_exactly_if_shaped _).2.2.1 _).mpr ?_
    have hvoid : MethodDescriptor.ofTypeNames (List.map .written ["void"]) (.written "int") =
        .error ⟨"void", .misplacedVoid⟩ := by cbv
    have htypes : HasIllegalTypes [(.str "name", .str "run"),
        (.str "parameters", .list (List.map .str ["void"])), (.str "returns", .str "int")]
        ⟨"void", .misplacedVoid⟩ := by
      refine .mk ?_ ?_ ?_ hvoid <;> simp [Value.field?]
    have hmethod : IsMethodOfIllegalTypes
        (.ofFields [("signature", signatureOfTypes "run" ["void"] "int")])
        ⟨"void", .misplacedVoid⟩ :=
      .mk (hasVariant_singleton _ (by simp [methodVariants])) (by rfl) htypes
    exact .mk (show _ = Value.str NameFormat.canonical.word by rfl) rfl rfl (isClass_exact "a.B")
      rfl hmethod
  · refine (read_exactly_if_shaped .null).2.2.2.1.mpr ⟨?_, ?_, ?_⟩
    · rintro ⟨_, ⟨⟩⟩
    · rintro ⟨_, ⟨⟩⟩
    · rintro ⟨⟩

/-- A format that is an integer of 4301 digits is no format, and yet it is not refused as such. -/
theorem read_of_long_format :
    (¬ ∃ config,
      IsConfig (.ofFields [("class_name_format", .int (10 ^ Decimal.maxDigits))]) config) ∧
    (¬ ∃ error, IsConfigOfIllegalTypes
      (.ofFields [("class_name_format", .int (10 ^ Decimal.maxDigits))]) error) ∧
    ofValue (.ofFields [("class_name_format", .int (10 ^ Decimal.maxDigits))]) =
      .error (.raised Decimal.unwritable) := by
  generalize hvalue : (10 ^ Decimal.maxDigits : Int) = value
  have hlong : Decimal.IsTooLong value := hvalue ▸ Decimal.isTooLong_pow
  have hunknown (format : NameFormat) : Value.int value ≠ .str format.word := by
    intro heq
    cases heq
  have hformat : IsUnquotedFormat (.int value) :=
    ⟨hunknown, Value.holdsLongInteger_int.mpr hlong⟩
  have hquoted : QuotesLongInteger (.ofFields [("class_name_format", .int value)]) :=
    .format (by simp [Value.field?]) hformat
  obtain ⟨hconfig, -, htypes, -, hraised⟩ :=
    read_exactly_if_shaped (.ofFields [("class_name_format", .int value)])
  have houtcome := (hraised _).mpr ⟨rfl, hquoted⟩
  refine ⟨?_, ?_, houtcome⟩
  · rintro ⟨config, hshape⟩
    have hok := (hconfig config).mpr hshape
    rw [houtcome] at hok
    cases hok
  · rintro ⟨error, hillegal⟩
    have hrefused := (htypes error).mpr hillegal
    rw [houtcome] at hrefused
    cases hrefused

end MatcherConfig
end CallSites
