/-
  CallSites.Proofs.Config.Failures

  How a document of the right shape can still fail to load. Reading it has settled which tests are
  to be built, and a literal class name is put into its format on the way, so that only the texts
  themselves can fail: one is too long, a pattern does not compile, or a descriptor is none. The
  last happens only to a descriptor that the document itself gives. A pattern without an encoding
  raises an exception instead. What is loaded keeps to the limits.
-/
import CallSites.Proofs.Config.Phases
import CallSites.Proofs.Descriptor.Reading

namespace CallSites

/-! ## Failures of texts -/

/-- The failures that a text brings about: it is too long, or no pattern, or no descriptor though
    it is given as one. A pattern that cannot even be encoded raises an exception. -/
inductive MatcherError.IsOfText (isPattern given : Text → Prop) : MatcherError → Prop
  | tooLong (length maximum : Nat) : IsOfText isPattern given (.tooLong length maximum)
  | invalidPattern {pattern : String} (cause : Regex.Error) :
    isPattern pattern → IsOfText isPattern given (.invalidPattern pattern cause)
  | unencodable {pattern : Text} :
    isPattern pattern → pattern.toString? = none →
    IsOfText isPattern given (.raised pattern.unencodable)
  | invalidDescriptor {error : DescriptorError} :
    given error.descriptor → IsOfText isPattern given (.invalidDescriptor error)

theorem MatcherError.IsOfText.imp {isPattern given other : Text → Prop} {error : MatcherError}
    (h : error.IsOfText isPattern given) (himp : ∀ text, given text → other text) :
    error.IsOfText isPattern other := by
  cases h with
  | tooLong length maximum => exact .tooLong length maximum
  | invalidPattern cause hpattern => exact .invalidPattern cause hpattern
  | unencodable hpattern hnone => exact .unencodable hpattern hnone
  | invalidDescriptor hgiven => exact .invalidDescriptor (himp _ hgiven)

/-! ## Limits of what is loaded -/

/-- A literal in the format, or a pattern, that keeps to its limit. -/
def ClassMatcher.WithinLimits (format : NameFormat) : ClassMatcher → Prop
  | .exact name => format.normalize name = name ∧ name.length ≤ maxNameLength
  | .regex pattern => pattern.text.length ≤ maxPatternLength

/-- A name, or a pattern, that keeps to its limit. With a name there may be a descriptor. -/
def MethodMatcher.WithinLimits : MethodMatcher → Prop
  | .named name => name.length ≤ maxNameLength
  | .regex pattern => pattern.text.length ≤ maxPatternLength
  | .signature name descriptor =>
    name.length ≤ maxNameLength ∧ descriptor.length ≤ maxNameLength ∧
      ∃ parsed, MethodDescriptor.read descriptor = .ok parsed

/-- A matcher whose parts both keep to their limits. -/
structure Matcher.WithinLimits (matcher : Matcher) : Prop where
  classes : matcher.classes.WithinLimits matcher.format
  methods : matcher.methods.WithinLimits

namespace MatcherConfig

variable {isPattern given : Text → Prop}

/-! ## Steps -/

theorem ensures_checkLength (maximum : Nat) (text : Text) :
    Ensures (checkLength maximum text) (fun _ => text.length ≤ maximum)
      (MatcherError.IsOfText isPattern given) := by
  rw [checkLength]
  split
  · exact .of_error (.tooLong _ _)
  · next hwithin => exact .of_ok (Nat.not_lt.mp hwithin)

theorem ensures_compilePattern {text : Text} (h : isPattern text) :
    Ensures (compilePattern text) (fun pattern => text = pattern.text)
      (MatcherError.IsOfText isPattern given) := by
  refine ⟨fun _ hpattern => text_of_compilePattern hpattern, ?_⟩
  intro error herror
  cases hstring : text.toString? with
  | none =>
    rw [compilePattern, hstring] at herror
    cases herror
    exact .unencodable h hstring
  | some string =>
    obtain rfl := Text.toString?_eq_some_iff.mp hstring
    rw [compilePattern_ofString] at herror
    cases hcompile : Regex.Pattern.compile string with
    | error cause =>
      rw [hcompile] at herror
      cases herror
      exact .invalidPattern cause h
    | ok pattern =>
      rw [hcompile] at herror
      cases herror

/-- A pattern that is compiled keeps to its limit. -/
theorem ensures_pattern {text : Text} (h : isPattern text) :
    Ensures (checkLength maxPatternLength text >>= fun _ => compilePattern text)
      (fun pattern => pattern.text.length ≤ maxPatternLength)
      (MatcherError.IsOfText isPattern given) := by
  refine (ensures_checkLength maxPatternLength text).bind fun _ hlength => ?_
  have hcompile := @ensures_compilePattern isPattern given text h
  refine ⟨fun pattern hpattern => ?_, hcompile.error⟩
  rw [hcompile.ok pattern hpattern, Text.length_ofString] at hlength
  exact hlength

theorem ensures_readDescriptor (text : Text) :
    Ensures ((MethodDescriptor.read text).mapError MatcherError.invalidDescriptor)
      (fun parsed => MethodDescriptor.read text = .ok parsed)
      (MatcherError.IsOfText isPattern fun refused =>
        refused = text ∧ ∀ parsed, MethodDescriptor.read text ≠ .ok parsed) := by
  by_cases hread : ∃ parsed, MethodDescriptor.read text = .ok parsed
  · obtain ⟨parsed, hparsed⟩ := hread
    rw [hparsed]
    exact .of_ok rfl
  · have hnone := not_exists.mp hread
    obtain ⟨fault, hfault⟩ := MethodDescriptor.exists_read_eq_error hnone
    rw [hfault]
    exact .of_error (.invalidDescriptor ⟨rfl, hfault ▸ hnone⟩)

/-! ## Halves -/

theorem ensures_loadClass {format : NameFormat} {choice : ClassChoice}
    (h : choice.variant ∈ classVariants.map Text.ofString)
    (hpattern : choice.variant = "regex" → isPattern choice.value) :
    Ensures (loadClass format choice).outcome (ClassMatcher.WithinLimits format)
      (MatcherError.IsOfText isPattern given) := by
  obtain ⟨variant, text⟩ := choice
  obtain rfl | rfl : variant = "exact" ∨ variant = "regex" := by simpa [classVariants] using h
  · rw [outcome_loadClass_exact]
    refine (ensures_checkLength maxNameLength text).bind fun _ hlength => .of_ok ⟨?_, ?_⟩
    · exact NameFormat.normalize_normalize format format text
    · rw [NameFormat.normalize, Text.length_mapChars]
      exact hlength
  · rw [outcome_loadClass_regex, ← bind_assoc]
    exact (ensures_pattern (hpattern rfl)).bind fun pattern hlength => .of_ok hlength

/-- Of the methods only a signature has a descriptor that can be refused. -/
theorem ensures_loadMethod {choice : MethodChoice}
    (h : choice.variant ∈ methodVariants.map Text.ofString)
    (hpattern : choice.variant = "regex" → isPattern choice.value) :
    Ensures (loadMethod choice).outcome MethodMatcher.WithinLimits
      (MatcherError.IsOfText isPattern fun refused => choice.variant = "signature" ∧
        refused = choice.descriptor.getD "" ∧
        ∀ parsed, MethodDescriptor.read refused ≠ .ok parsed) := by
  obtain ⟨variant, text, descriptor⟩ := choice
  obtain rfl | rfl | rfl : variant = "name" ∨ variant = "regex" ∨ variant = "signature" := by
    simpa [methodVariants] using h
  · rw [outcome_loadMethod_name]
    exact (ensures_checkLength maxNameLength text).bind fun _ hlength => .of_ok hlength
  · rw [outcome_loadMethod_regex, ← bind_assoc]
    exact (ensures_pattern (hpattern rfl)).bind fun pattern hlength => .of_ok hlength
  · rw [outcome_loadMethod_signature]
    refine (ensures_checkLength maxNameLength text).bind fun _ hname => ?_
    refine (ensures_checkLength maxNameLength _).bind fun _ hdescriptor => ?_
    -- The lengths come first, so the text that is read is the whole descriptor.
    have hread := @ensures_readDescriptor isPattern (descriptor.getD "")
    refine (hread.weaken fun error herror => ?_).bind fun parsed hparsed =>
      .of_ok ⟨hname, hdescriptor, parsed, hparsed⟩
    refine herror.imp ?_
    rintro _ ⟨rfl, hnone⟩
    exact ⟨rfl, rfl, hnone⟩

theorem ensures_ofParts {classes : ClassMatcher} {methods : MethodMatcher} {format : NameFormat}
    {failure : MatcherError → Prop} (hclasses : classes.WithinLimits format)
    (hmethods : methods.WithinLimits) :
    Ensures (Matcher.ofParts classes methods format) Matcher.WithinLimits failure := by
  cases classes with
  | regex pattern => exact .of_ok ⟨hclasses, hmethods⟩
  | exact name =>
    rw [Matcher.ofParts, dif_pos hclasses.1]
    exact .of_ok ⟨hclasses, hmethods⟩

/-! ## Configurations that were read -/

/-- The entry has a signature that is written with this text as its descriptor. -/
def GivesDescriptor (item : Value) (text : Text) : Prop :=
  ∃ entries methods parts, item = .map entries ∧
    Value.field? entries "method" = some (.map methods) ∧
    Value.field? methods "signature" = some (.map parts) ∧
    Value.field? parts "descriptor" = some (.str text)

/-- The text is the class pattern of the configuration, or its method pattern. -/
def HasPattern (config : MatcherConfig) (text : Text) : Prop :=
  (config.classes.variant = "regex" ∧ text = config.classes.value) ∨
    (config.methods.variant = "regex" ∧ text = config.methods.value)

variable {item : Value} {config : MatcherConfig}

theorem IsConfig.classes_variant (h : IsConfig item config) :
    config.classes.variant ∈ classVariants.map Text.ofString := by
  cases h with
  | allocations => simp [classVariants]
  | pair _ _ _ hclasses =>
    obtain ⟨hvariant⟩ := hclasses
    exact List.mem_map_of_mem hvariant.mem

theorem IsConfig.methods_variant (h : IsConfig item config) :
    config.methods.variant ∈ methodVariants.map Text.ofString := by
  cases h with
  | allocations => simp [methodVariants]
  | pair _ _ _ _ _ hmethods =>
    cases hmethods with
    | plain _ hvariant => exact List.mem_map_of_mem hvariant.mem
    | signature hvariant => exact List.mem_map_of_mem hvariant.mem

/-- A descriptor that is refused is given in the document: one that is derived from types is always
    a descriptor. -/
theorem IsConfig.givesDescriptor (h : IsConfig item config)
    (hsignature : config.methods.variant = "signature") {refused : Text}
    (hrefused : refused = config.methods.descriptor.getD "")
    (hnone : ∀ parsed, MethodDescriptor.read refused ≠ .ok parsed) :
    GivesDescriptor item refused := by
  subst hrefused
  -- The shorthand has no signature, so the entry is a pair and its method a signature.
  cases h with
  | allocations => exact absurd hsignature (by simp)
  | pair _ _ _ _ hmethod hmethods =>
    cases hmethods with
    | plain hplain => exact absurd (Text.ofString_injective hsignature) hplain
    | signature hvariant _ hdescriptor =>
      cases hdescriptor with
      | given hgiven => exact ⟨_, _, _, rfl, hmethod, hvariant.field, hgiven⟩
      | derived => exact absurd (MethodDescriptor.read_text _) (hnone _)

/-- A configuration that was read is loaded within the limits, or one of its texts fails. -/
theorem ensures_load (h : IsConfig item config) :
    Ensures config.load.outcome Matcher.WithinLimits
      (MatcherError.IsOfText config.HasPattern (GivesDescriptor item)) := by
  rw [outcome_load]
  have hclass : config.classes.variant = "regex" → config.HasPattern config.classes.value :=
    fun hvariant => .inl ⟨hvariant, rfl⟩
  have hmethod : config.methods.variant = "regex" → config.HasPattern config.methods.value :=
    fun hvariant => .inr ⟨hvariant, rfl⟩
  refine (ensures_loadClass h.classes_variant hclass).bind fun classes hclasses => ?_
  refine ((ensures_loadMethod h.methods_variant hmethod).weaken fun error herror => ?_).bind
    fun methods hmethods => ensures_ofParts hclasses hmethods
  exact herror.imp fun refused ⟨hsignature, hrefused, hnone⟩ =>
    h.givesDescriptor hsignature hrefused hnone

/-! ## Documents -/

/-- The entries of a document: those listed under `matchers`, or the document itself if it has no
    such key. -/
def documentItems (document : Value) : List Value :=
  match document with
  | .map entries =>
    match Value.field? entries "matchers" with
    | none => [document]
    | some (.list items) => items
    | some _ => []
  | _ => [document]

variable {document : Value} {configs : List MatcherConfig} {matchers : List Matcher}

theorem exists_fault_of_no_items (h : documentItems document = []) :
    ∃ fault, listOfValue document = fail fault := by
  cases document with
  | map entries =>
    rw [documentItems] at h
    rw [listOfValue]
    split at h
    · cases h
    · next items hitems =>
      subst h
      simp only [hitems]
      exact ⟨_, rfl⟩
    · next found hnot hfound =>
      simp only [hfound]
      split
      · next hnone => cases hnone
      · exact ⟨_, rfl⟩
      · next items _ hlist => exact absurd (Option.some.inj hlist) (hnot items)
      · exact ⟨_, rfl⟩
  | _ => cases h

/-- A document that has entries is read by reading each of them. -/
theorem listOfValue_eq_mapM (h : documentItems document ≠ []) :
    listOfValue document = (documentItems document).mapM ofValue := by
  have hself : (ofValue document).map ([·]) = [document].mapM ofValue := by
    rw [List.mapM_cons]
    cases ofValue document <;> rfl
  cases document with
  | map entries =>
    rw [documentItems] at h ⊢
    split at h
    · next hnone =>
      rw [listOfValue]
      simp only [hnone]
      exact hself
    · next items hitems => exact listOfValue_of_items hitems h
    · exact absurd rfl h
  | _ => exact hself

theorem documentItems_ne_nil (h : listOfValue document = .ok configs) :
    documentItems document ≠ [] := by
  intro hnil
  obtain ⟨fault, hfault⟩ := exists_fault_of_no_items hnil
  rw [hfault] at h
  cases h

theorem forall₂_of_listOfValue (h : listOfValue document = .ok configs) :
    List.Forall₂ (fun item config => ofValue item = .ok config) (documentItems document)
      configs := by
  rw [listOfValue_eq_mapM (documentItems_ne_nil h)] at h
  exact mapM_eq_ok_iff.mp h

/-- Each configuration is read from an entry of the document. -/
theorem exists_item_of_mem (h : listOfValue document = .ok configs) {config : MatcherConfig}
    (hmem : config ∈ configs) :
    ∃ item ∈ documentItems document, ofValue item = .ok config :=
  exists_mem_of_forall₂ (forall₂_of_listOfValue h) hmem

theorem loadMatchers_eq_loadAll (h : listOfValue document = .ok configs)
    (hlength : configs.length ≤ maxMatchers) : loadMatchers document = loadAll configs := by
  rw [loadMatchers_of_listOfValue h, if_neg (Nat.not_lt.mpr hlength)]

/-- Either all configurations are loaded, or the error is that of one of them. -/
theorem outcome_loadAll_cases (configs : List MatcherConfig) :
    (∃ matchers, (loadAll configs).outcome = .ok matchers ∧
      List.Forall₂ (fun config matcher => config.load.outcome = .ok matcher) configs matchers) ∨
    ∃ config ∈ configs, ∃ error, config.load.outcome = .error error ∧
      (loadAll configs).outcome = .error error := by
  by_cases hfault : ∃ config ∈ configs, ∃ error, config.load.outcome = .error error
  -- Loading stops at the first of those that fail.
  · obtain ⟨before, matchers, config, error, hstops⟩ := exists_stopsAt hfault
    have houtcome := congrArg Logged.outcome (loadAll_of_stopsAt hstops)
    obtain ⟨⟨after, rfl⟩, -, hstop⟩ := hstops
    exact .inr ⟨config, by simp, error, hstop, houtcome⟩
  · have hall : ∀ config ∈ configs, ∃ matcher, config.load.outcome = .ok matcher := by
      intro config hmem
      cases hload : config.load.outcome with
      | error error => exact absurd ⟨config, hmem, error, hload⟩ hfault
      | ok matcher => exact ⟨matcher, rfl⟩
    obtain ⟨matchers, hmatchers⟩ := exists_forall₂_of_ok hall
    exact .inl ⟨matchers, congrArg Logged.outcome (loadAll_of_forall₂ hmatchers), hmatchers⟩

/-- All matchers of a document that loads keep to the limits. -/
theorem withinLimits_of_loadMatchers (h : (loadMatchers document).outcome = .ok matchers)
    {matcher : Matcher} (hmem : matcher ∈ matchers) : matcher.WithinLimits := by
  cases hlist : listOfValue document with
  | error error =>
    rw [loadMatchers, hlist] at h
    cases h
  | ok configs =>
    rw [loadMatchers_of_listOfValue hlist] at h
    split at h
    · cases h
    · rcases outcome_loadAll_cases configs with ⟨found, hfound, hloaded⟩ | ⟨_, _, _, _, herror⟩
      -- The matcher comes from a configuration, and that from an entry that was read.
      · obtain rfl := Except.ok.inj (hfound.symm.trans h)
        obtain ⟨config, hconfig, hload⟩ := exists_mem_of_forall₂ hloaded hmem
        obtain ⟨item, -, hitem⟩ := exists_item_of_mem hlist hconfig
        exact (ensures_load (ofValue_eq_ok_iff.mp hitem)).ok matcher hload
      · rw [herror] at h
        cases h

/-- Once a document is read, it either gives a matcher for each of its configurations, or a text of
    one entry fails: it is too long, is no pattern, or is no descriptor though the signature of the
    entry gives it as one. An exception is raised only for a pattern of the entry that cannot be
    encoded. No other failure is left, since the variants are known by then, literals are spelled
    in their formats, and what is derived from types is a descriptor. Matchers of handles and names
    are always built. What a document gives keeps to the limits, its literals are in their formats,
    and its signatures have descriptors. -/
theorem loading_fails_by_texts_only {document : Value} :
    (∀ {configs : List MatcherConfig}, listOfValue document = .ok configs →
      configs.length ≤ 256 →
      (∃ matchers, (loadMatchers document).outcome = .ok matchers ∧
        List.Forall₂ (fun config matcher => config.load.outcome = .ok matcher)
          configs matchers) ∨
      ∃ item ∈ documentItems document, ∃ config error, ofValue item = .ok config ∧
        config.load.outcome = .error error ∧ (loadMatchers document).outcome = .error error ∧
        error.IsOfText config.HasPattern (GivesDescriptor item)) ∧
    (∀ cls format, ∃ matcher, Matcher.allocations cls format = .ok matcher) ∧
    (∀ cls method format, ∃ matcher, Matcher.forName cls method format = .ok matcher) ∧
    (∀ cls method format, ∃ matcher, Matcher.forMethod cls method format = .ok matcher) ∧
    (∀ {matchers : List Matcher},
      (loadMatchers document).outcome = .ok matchers → ∀ matcher ∈ matchers,
        (∀ name, matcher.classes = .exact name →
          matcher.format.normalize name = name ∧ name.length ≤ 8192) ∧
        (∀ pattern, matcher.classes = .regex pattern → pattern.text.length ≤ 4096) ∧
        (∀ name descriptor, matcher.methods = .signature name descriptor →
          descriptor.length ≤ 8192 ∧
            ∃ parsed, MethodDescriptor.read descriptor = .ok parsed)) := by
  refine ⟨?_, ?_, ?_, ?_, ?_⟩
  · intro configs hlist hlength
    have hload := congrArg Logged.outcome (loadMatchers_eq_loadAll hlist hlength)
    rcases outcome_loadAll_cases configs with
      ⟨matchers, hall, hloaded⟩ | ⟨config, hmem, error, herror, hall⟩
    · exact .inl ⟨matchers, hload.trans hall, hloaded⟩
    -- The failing config was read from an item, and the item's shape bounds its errors.
    · obtain ⟨item, hitem, hread⟩ := exists_item_of_mem hlist hmem
      have htext := (ensures_load (ofValue_eq_ok_iff.mp hread)).error error herror
      exact .inr ⟨item, hitem, config, error, hread, herror, hload.trans hall, htext⟩
  · exact fun cls format => ⟨_, Matcher.allocations_eq cls format⟩
  · exact fun cls method format => ⟨_, Matcher.forName_eq cls method format⟩
  · exact fun cls method format => ⟨_, Matcher.forMethod_eq cls method format⟩
  · intro matchers hload matcher hmem
    obtain ⟨hclasses, hmethods⟩ := withinLimits_of_loadMatchers hload hmem
    refine ⟨?_, ?_, ?_⟩
    · intro name hname
      rw [hname] at hclasses
      exact hclasses
    · intro pattern hpattern
      rw [hpattern] at hclasses
      exact hclasses
    · intro name descriptor hsignature
      rw [hsignature] at hmethods
      exact hmethods.2

/-- A document of a signature, and one whose descriptor is none. -/
theorem loading_fails_by_texts_only_signatures :
    (∃ matchers, (loadMatchers (pairDocument .canonical ("exact", .str "a/B")
        ("signature", signatureOfDescriptor "run" "()V"))).outcome = .ok matchers ∧
      ∀ matcher ∈ matchers, ∀ name, matcher.classes = .exact name →
        matcher.format.normalize name = name ∧ name.length ≤ 8192) ∧
    ∃ item ∈ documentItems (pairDocument .canonical ("exact", .str "a/B")
        ("signature", signatureOfDescriptor "run" "V")), ∃ config error,
      (loadMatchers (pairDocument .canonical ("exact", .str "a/B")
        ("signature", signatureOfDescriptor "run" "V"))).outcome = .error error ∧
      error.IsOfText (HasPattern config) (GivesDescriptor item) := by
  have hgood : (loadMatchers (pairDocument .canonical ("exact", .str "a/B")
      ("signature", signatureOfDescriptor "run" "()V"))).outcome.isOk = true := by decide +kernel
  have hbad : (loadMatchers (pairDocument .canonical ("exact", .str "a/B")
      ("signature", signatureOfDescriptor "run" "V"))).outcome.isOk = false := by decide +kernel
  have hread : listOfValue (pairDocument .canonical ("exact", .str "a/B")
      ("signature", signatureOfDescriptor "run" "V")) =
        .ok [⟨⟨"exact", "a/B"⟩, ⟨"signature", "run", some "V"⟩, .canonical⟩] := by
    have hconfig := ofValue_eq_ok_iff.mpr (isConfig_pairDocument .canonical (isClass_exact "a/B")
      (isMethod_signatureOfDescriptor "run" "V"))
    exact congrArg (Except.map ([·])) hconfig
  obtain ⟨matchers, hmatchers⟩ := exists_ok_of_isOk hgood
  have hlimits := loading_fails_by_texts_only.2.2.2.2 hmatchers
  refine ⟨⟨matchers, hmatchers, fun matcher hmem => (hlimits matcher hmem).1⟩, ?_⟩
  rcases loading_fails_by_texts_only.1 hread (by decide) with
    ⟨others, hothers, -⟩ | ⟨item, hitem, config, error, -, -, herror, htext⟩
  · rw [hothers] at hbad
    cases hbad
  · exact ⟨item, hitem, config, error, herror, htext⟩

/-- A class pattern that is half of a surrogate pair is read, and then raises an exception that is
    none of the errors of loading. -/
theorem loading_of_lone_surrogate :
    listOfValue (pairDocument .internal ("regex", .str (.ofList [.surrogate 0])) ("name", .str "m"))
      = .ok [⟨⟨"regex", .ofList [.surrogate 0]⟩, ⟨"name", "m", none⟩, .internal⟩] ∧
    (loadMatchers (pairDocument .internal ("regex", .str (.ofList [.surrogate 0]))
      ("name", .str "m"))).outcome =
        .error (.raised ⟨"UnicodeEncodeError",
          "'utf-8' codec can't encode character '\\ud800' in position 0: " ++
            "surrogates not allowed"⟩) := by
  refine ⟨?_, rfl⟩
  have hconfig := ofValue_eq_ok_iff.mpr (isConfig_pairDocument .internal
    (isClass_regex (.ofList [.surrogate 0])) (isMethod_name "m"))
  exact congrArg (Except.map ([·])) hconfig

end MatcherConfig
end CallSites
