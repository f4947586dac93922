/-
  CallSites.Proofs.Config.Factory

  A matcher that is built from handles and the matcher that is loaded from a document of the same
  names are the same matcher, unless one of the texts is longer than a document may hold.
-/
import CallSites.Proofs.Config.Document
import CallSites.Proofs.Config.Loading
import CallSites.Proofs.Descriptor.Reading
import CallSites.Proofs.Descriptor.TypeName

namespace CallSites

/-! ## Limits -/

/-- The outcome is the matcher if every text keeps to its limit. Otherwise it reports one of the
    texts that do not, and nothing else. -/
structure AgreesWithin (limits : List (Text × Nat)) (outcome : Except MatcherError Matcher)
    (matcher : Matcher) : Prop where
  ok : (∀ limit ∈ limits, limit.1.length ≤ limit.2) → outcome = .ok matcher
  tooLong : (∃ limit ∈ limits, limit.2 < limit.1.length) →
    ∃ limit ∈ limits, limit.2 < limit.1.length ∧
      outcome = .error (.tooLong limit.1.length limit.2)

namespace AgreesWithin

variable {limits : List (Text × Nat)} {outcome : Except MatcherError Matcher}
  {matcher : Matcher}

theorem nil : AgreesWithin [] (.ok matcher) matcher where
  ok _ := rfl
  tooLong := by simp

/-- A check in front of an outcome adds its limit to those of the outcome. -/
theorem cons (text : Text) (maximum : Nat) (h : AgreesWithin limits outcome matcher) :
    AgreesWithin ((text, maximum) :: limits)
      (MatcherConfig.checkLength maximum text >>= fun _ => outcome) matcher := by
  by_cases hlong : maximum < text.length
  -- The check fails first, so its text is the one that is reported.
  · have hcheck : MatcherConfig.checkLength maximum text = .error (.tooLong text.length maximum) :=
      if_pos hlong
    rw [hcheck, error_bind]
    refine ⟨fun hall => ?_, fun _ => ⟨(text, maximum), List.mem_cons_self, hlong, rfl⟩⟩
    exact absurd (hall (text, maximum) List.mem_cons_self) (Nat.not_le.mpr hlong)
  -- The check passes, so a text that is too long is one of the others.
  · have hcheck : MatcherConfig.checkLength maximum text = .ok () := if_neg hlong
    rw [hcheck, ok_bind]
    refine ⟨fun hall => h.ok fun limit hlimit => hall limit (List.mem_cons_of_mem _ hlimit), ?_⟩
    rintro ⟨limit, hlimit, hexceeds⟩
    rcases List.mem_cons.mp hlimit with rfl | hlimit
    · exact absurd hexceeds hlong
    · obtain ⟨found, hfound, hreported⟩ := h.tooLong ⟨limit, hlimit, hexceeds⟩
      exact ⟨found, List.mem_cons_of_mem _ hfound, hreported⟩

end AgreesWithin

/-! ## Loading documents -/

namespace MatcherConfig

/-- Reads a document of one matcher and loads it. -/
def loadDocument (document : Value) : Except MatcherError Matcher :=
  ofValue document >>= fun config => config.load.outcome

theorem loadDocument_of_isConfig {document : Value} {config : MatcherConfig}
    (h : IsConfig document config) : loadDocument document = config.load.outcome := by
  rw [loadDocument, ofValue_eq_ok_iff.mpr h, ok_bind]

theorem outcome_load_exact_name (format : NameFormat) (cls method : Text)
    (descriptor : Option Text) :
    (load ⟨⟨"exact", cls⟩, ⟨"name", method, descriptor⟩, format⟩).outcome =
      checkLength maxNameLength cls >>= fun _ =>
        checkLength maxNameLength method >>= fun _ =>
          .ok (Matcher.literal cls (.named method) format) := by
  simp only [outcome_load, outcome_loadClass_exact, outcome_loadMethod_name, bind_assoc, ok_bind,
    Matcher.ofParts_exact_normalize]

theorem outcome_load_regex_regex (format : NameFormat) (cls method : Text)
    (descriptor : Option Text) :
    (load ⟨⟨"regex", cls⟩, ⟨"regex", method, descriptor⟩, format⟩).outcome =
      checkLength maxPatternLength cls >>= fun _ =>
        compilePattern cls >>= fun classes =>
          checkLength maxPatternLength method >>= fun _ =>
            compilePattern method >>= fun methods =>
              Matcher.ofParts (.regex classes) (.regex methods) format := by
  simp only [outcome_load, outcome_loadClass_regex, outcome_loadMethod_regex, bind_assoc, ok_bind]

theorem outcome_load_exact_signature (format : NameFormat) (cls method : Text)
    (descriptor : MethodDescriptor) :
    (load ⟨⟨"exact", cls⟩, ⟨"signature", method, some descriptor.text⟩, format⟩).outcome =
      checkLength maxNameLength cls >>= fun _ =>
        checkLength maxNameLength method >>= fun _ =>
          checkLength maxNameLength descriptor.text >>= fun _ =>
            .ok (Matcher.literal cls (.signature method descriptor.text) format) := by
  have hread : (MethodDescriptor.read descriptor.text).mapError MatcherError.invalidDescriptor
      = .ok descriptor := by
    rw [MethodDescriptor.read_text]
    rfl
  simp only [outcome_load, outcome_loadClass_exact, outcome_loadMethod_signature, bind_assoc,
    ok_bind, Option.getD_some, hread, Matcher.ofParts_exact_normalize]

end MatcherConfig

namespace Matcher

open MatcherConfig

theorem agreesWithin_literal (format : NameFormat) (cls method : Text)
    (descriptor : Option Text) :
    AgreesWithin [(cls, maxNameLength), (method, maxNameLength)]
      (load ⟨⟨"exact", cls⟩, ⟨"name", method, descriptor⟩, format⟩).outcome
      (literal cls (.named method) format) := by
  rw [outcome_load_exact_name]
  exact (AgreesWithin.nil.cons method maxNameLength).cons cls maxNameLength

/-- The name of constructors keeps to its limit. -/
theorem agreesWithin_allocations (format : NameFormat) (cls : Text) :
    AgreesWithin [(cls, maxNameLength)] (loadDocument (allocationsDocument format cls))
      (literal cls (.named constructorName) format) := by
  have hconstructor : checkLength maxNameLength constructorName = .ok () := by decide
  rw [loadDocument_of_isConfig (isConfig_allocationsDocument format cls),
    outcome_load_exact_name, hconstructor, ok_bind]
  exact AgreesWithin.nil.cons cls maxNameLength

theorem agreesWithin_patterns {format : NameFormat} {cls method : Text} {matcher : Matcher}
    (h : forPatterns cls method format = .ok matcher) :
    AgreesWithin [(cls, maxPatternLength), (method, maxPatternLength)]
      (load ⟨⟨"regex", cls⟩, ⟨"regex", method, none⟩, format⟩).outcome matcher := by
  obtain ⟨classes, hclasses, h⟩ := bind_eq_ok_iff.mp h
  obtain ⟨methods, hmethods, h⟩ := bind_eq_ok_iff.mp h
  simp only [outcome_load_regex_regex, hclasses, hmethods, ok_bind, h]
  exact (AgreesWithin.nil.cons method maxPatternLength).cons cls maxPatternLength

theorem agreesWithin_signature (format : NameFormat) (cls method : Text)
    (descriptor : MethodDescriptor) :
    AgreesWithin
      [(cls, maxNameLength), (method, maxNameLength), (descriptor.text, maxNameLength)]
      (load ⟨⟨"exact", cls⟩, ⟨"signature", method, some descriptor.text⟩, format⟩).outcome
      (literal cls (.signature method descriptor.text) format) := by
  rw [outcome_load_exact_signature]
  exact ((AgreesWithin.nil.cons descriptor.text maxNameLength).cons method maxNameLength).cons cls
    maxNameLength

/-- Every matcher that is built from handles and names is loaded from the document of these names,
    unless one of the texts of the document is too long, which is then reported. -/
theorem loadDocument_agrees_with_handles (format : NameFormat) :
    (∀ name cls matcher, ClassHandle.ofName name = .ok cls →
      allocations cls format = .ok matcher →
      AgreesWithin [(name, 8192)] (loadDocument (allocationsDocument format name)) matcher) ∧
    (∀ cls method matcher, forName cls method format = .ok matcher →
      AgreesWithin [(cls, 8192), (method, 8192)]
        (loadDocument (pairDocument format ("exact", .str cls) ("name", .str method)))
        matcher) ∧
    (∀ cls method matcher, forPatterns cls method format = .ok matcher →
      AgreesWithin [(cls, 4096), (method, 4096)]
        (loadDocument (pairDocument format ("regex", .str cls) ("regex", .str method)))
        matcher) ∧
    (∀ name cls methodName parameters result method matcher,
      ClassHandle.ofName name = .ok cls →
      MethodHandle.ofTypes methodName (parameters.map .written) (.written result) = .ok method →
      forMethod cls method format = .ok matcher →
      AgreesWithin [(name, 8192), (methodName, 8192), (method.descriptor.text, 8192)]
        (loadDocument (pairDocument format ("exact", .str name)
          ("signature", signatureOfTypes methodName parameters result)))
        matcher ∧
      AgreesWithin [(name, 8192), (methodName, 8192), (method.descriptor.text, 8192)]
        (loadDocument (pairDocument format ("exact", .str name)
          ("signature", signatureOfDescriptor methodName method.descriptor.text)))
        matcher) := by
  refine ⟨?_, ?_, ?_, ?_⟩
  · intro name cls matcher hcls h
    obtain rfl := ClassHandle.ofName_eq_ok_iff.mp hcls
    cases (allocations_eq cls format).symm.trans h
    exact agreesWithin_allocations format cls.name
  · intro cls method matcher h
    cases (forName_eq cls method format).symm.trans h
    rw [loadDocument_of_isConfig
      (isConfig_pairDocument format (isClass_exact cls) (isMethod_name method))]
    exact agreesWithin_literal format cls method none
  · intro cls method matcher h
    rw [loadDocument_of_isConfig
      (isConfig_pairDocument format (isClass_regex cls) (isMethod_regex method))]
    exact agreesWithin_patterns h
  · intro name cls methodName parameters result method matcher hcls hmethod h
    obtain rfl := ClassHandle.ofName_eq_ok_iff.mp hcls
    obtain ⟨rfl, hparameters, hresult⟩ := MethodHandle.ofTypes_eq_ok_iff.mp hmethod
    -- The document lists the names that the handle has derived its descriptor from.
    have hderived := method.descriptor_eq
    rw [hparameters, hresult] at hderived
    cases (forMethod_eq cls method format).symm.trans h
    rw [loadDocument_of_isConfig (isConfig_pairDocument format (isClass_exact cls.name)
        (isMethod_signatureOfTypes method.name hderived)),
      loadDocument_of_isConfig (isConfig_pairDocument format (isClass_exact cls.name)
        (isMethod_signatureOfDescriptor method.name method.descriptor.text))]
    exact ⟨agreesWithin_signature format cls.name method.name method.descriptor,
      agreesWithin_signature format cls.name method.name method.descriptor⟩

/-- Short names and patterns keep to the limits, so their documents give the matchers. -/
theorem loadDocument_agrees_with_handles_short :
    ∃ cls method allocated named matched signed,
      ClassHandle.ofName "a.B" = .ok cls ∧
      MethodHandle.ofTypes "run" (List.map .written ["a.B[]", "int"]) (.written "void")
        = .ok method ∧
      allocations cls .internal = .ok allocated ∧
      forName "a.B" "run" .internal = .ok named ∧
      forPatterns "a/.*" "get.+" .internal = .ok matched ∧
      forMethod cls method .internal = .ok signed ∧
      loadDocument (allocationsDocument .internal "a.B") = .ok allocated ∧
      loadDocument (pairDocument .internal ("exact", .str "a.B") ("name", .str "run"))
        = .ok named ∧
      loadDocument (pairDocument .internal ("regex", .str "a/.*") ("regex", .str "get.+"))
        = .ok matched ∧
      loadDocument (pairDocument .internal ("exact", .str "a.B")
        ("signature", signatureOfTypes "run" ["a.B[]", "int"] "void")) = .ok signed ∧
      loadDocument (pairDocument .internal ("exact", .str "a.B")
        ("signature", signatureOfDescriptor "run" "([La/B;I)V")) = .ok signed := by
  have hchars : (internalName "a.B").map InternalName.chars =
      .ok [.char 'a', .char '/', .char 'B'] := by
    cbv
  have htext : (MethodDescriptor.ofTypeNames (List.map .written ["a.B[]", "int"])
      (.written "void")).map MethodDescriptor.text = .ok "([La/B;I)V" := by cbv
  obtain ⟨internal, hinternal, -⟩ := map_eq_ok_iff.mp hchars
  obtain ⟨cls, hcls⟩ := ClassHandle.exists_ofName hinternal
  obtain ⟨descriptor, hderived, htext⟩ := map_eq_ok_iff.mp htext
  obtain ⟨method, hmethod, hcarried⟩ := MethodHandle.exists_ofTypes "run" hderived
  rw [← hcarried] at htext
  obtain ⟨matched, hmatched⟩ := exists_forPatterns
    (by decide +kernel : (Regex.parse "a/.*").isOk = true)
    (by decide +kernel : (Regex.parse "get.+").isOk = true) .internal
  obtain ⟨hallocations, hnames, hpatterns, hsignatures⟩ :=
    loadDocument_agrees_with_handles .internal
  obtain ⟨hofTypes, hofDescriptor⟩ := hsignatures "a.B" cls "run" _ _ method _ hcls hmethod
    (forMethod_eq cls method .internal)
  rw [htext] at hofTypes hofDescriptor
  exact ⟨cls, method, _, _, matched, _, hcls, hmethod, allocations_eq cls .internal,
    forName_eq "a.B" "run" .internal, hmatched, forMethod_eq cls method .internal,
    (hallocations "a.B" cls _ hcls (allocations_eq cls .internal)).ok (by decide),
    (hnames "a.B" "run" _ (forName_eq "a.B" "run" .internal)).ok (by decide),
    (hpatterns "a/.*" "get.+" matched hmatched).ok (by decide),
    hofTypes.ok (by decide), hofDescriptor.ok (by decide)⟩

end Matcher
end CallSites
