/-
  CallSites.Proofs.Config.Refusals

  Which failure a configuration ends in, if several are possible. The ways to be refused stand in
  one fixed order, those of the class before those of the method, and loading reports the first
  that applies. If none applies, the matcher carries the values of the configuration. A pattern that
  is too long is refused before it is compiled, and one that cannot be encoded raises an exception.
-/
import CallSites.Proofs.Config.Loading
import CallSites.Proofs.Config.Shape
import CallSites.Proofs.Descriptor.Grammar
import CallSites.Proofs.Matcher.Spelling

namespace CallSites

/-! ## Refusals -/

/-- A way to be refused: when that is the case, and which errors report it. -/
structure Refusal where
  applies : Prop
  reports : MatcherError → Prop

namespace Refusal

/-- No test of this variant is known. -/
def unknown (variants : List Text) (variant : Text) (fault : ConfigFault) : Refusal where
  applies := variant ∉ variants
  reports error := error = .config fault

/-- The text has more characters than the limit. -/
def tooLong (text : Text) (maximum : Nat) : Refusal where
  applies := maximum < text.length
  reports error := error = .tooLong text.length maximum

/-- The text cannot be encoded, so that compiling it raises an exception. -/
def unencodable (text : Text) : Refusal where
  applies := ¬ ∃ string : String, text = string
  reports error := error = .raised text.unencodable

/-- The text does not compile as a pattern. -/
def noPattern (text : Text) : Refusal where
  applies := ¬ ∃ (string : String) (pattern : Regex.Pattern),
    text = string ∧ Regex.Pattern.compile string = .ok pattern
  reports error := ∃ (string : String) (cause : Regex.Error),
    text = string ∧ Regex.Pattern.compile string = .error cause ∧
      error = .invalidPattern string cause

/-- The text is not in the grammar of descriptors. -/
def noDescriptor (text : Text) : Refusal where
  applies := ¬ ∃ parameters result, Grammar.IsDescriptor text parameters result
  reports error :=
    ∃ fault, MethodDescriptor.read text = .error ⟨text, fault⟩ ∧
      error = .invalidDescriptor ⟨text, fault⟩

/-- A refusal that is possible under a condition only. -/
def onlyIf (condition : Prop) (refusal : Refusal) : Refusal where
  applies := condition ∧ refusal.applies
  reports := refusal.reports

/-- The error reports the first refusal of a list that applies. -/
inductive FirstReports : List Refusal → MatcherError → Prop where
  | here {refusal : Refusal} {refusals : List Refusal} {error : MatcherError} :
    refusal.applies → refusal.reports error → FirstReports (refusal :: refusals) error
  | later {refusal : Refusal} {refusals : List Refusal} {error : MatcherError} :
    ¬ refusal.applies → FirstReports refusals error → FirstReports (refusal :: refusals) error

/-- No refusal of a list applies. -/
def NoneApplies (refusals : List Refusal) : Prop :=
  ∀ refusal ∈ refusals, ¬ refusal.applies

end Refusal

/-! ## The order of refusals -/

/-- The limit of the value that a variant has. -/
def variantLimit (variant : Text) : Nat :=
  if variant = "regex" then 4096 else 8192

def ClassChoice.refusals (choice : ClassChoice) : List Refusal :=
  [.unknown ["exact", "regex"] choice.variant (.unknownClassVariant choice.variant),
    .tooLong choice.value (variantLimit choice.variant),
    (Refusal.unencodable choice.value).onlyIf (choice.variant = "regex"),
    (Refusal.noPattern choice.value).onlyIf (choice.variant = "regex")]

/-- A descriptor is looked at in a signature only, where a missing one is empty. -/
def MethodChoice.refusals (choice : MethodChoice) : List Refusal :=
  [.unknown ["name", "regex", "signature"] choice.variant (.unknownMethodVariant choice.variant),
    .tooLong choice.value (variantLimit choice.variant),
    (Refusal.unencodable choice.value).onlyIf (choice.variant = "regex"),
    (Refusal.noPattern choice.value).onlyIf (choice.variant = "regex"),
    (Refusal.tooLong (choice.descriptor.getD "") 8192).onlyIf (choice.variant = "signature"),
    (Refusal.noDescriptor (choice.descriptor.getD "")).onlyIf (choice.variant = "signature")]

/-- All ways to refuse a configuration, the class first. -/
def MatcherConfig.refusals (config : MatcherConfig) : List Refusal :=
  config.classes.refusals ++ config.methods.refusals

/-! ## What is built -/

/-- The class test of a choice: its name in the format, or its pattern as it stands. -/
def ClassChoice.Builds (format : NameFormat) (choice : ClassChoice) : ClassMatcher → Prop
  | .exact name => choice.variant = "exact" ∧ name = format.normalize choice.value
  | .regex pattern => choice.variant = "regex" ∧ choice.value = pattern.text

/-- The method test of a choice, which carries its texts as they stand. -/
def MethodChoice.Builds (choice : MethodChoice) : MethodMatcher → Prop
  | .named name => choice.variant = "name" ∧ name = choice.value
  | .regex pattern => choice.variant = "regex" ∧ choice.value = pattern.text
  | .signature name descriptor =>
    choice.variant = "signature" ∧ name = choice.value ∧ descriptor = choice.descriptor.getD ""

/-- The matcher of a configuration. -/
structure MatcherConfig.Builds (config : MatcherConfig) (matcher : Matcher) : Prop where
  classes : config.classes.Builds config.format matcher.classes
  methods : config.methods.Builds matcher.methods
  format : matcher.format = config.format

/-! ## Outcomes that refusals decide -/

/-- The outcome is the first refusal that applies, or what is built if none does. -/
structure RefusedBy {α : Type} (refusals : List Refusal) (outcome : Except MatcherError α)
    (built : α → Prop) : Prop where
  error : ∀ error, outcome = .error error ↔ Refusal.FirstReports refusals error
  ok : ∀ value, outcome = .ok value ↔ Refusal.NoneApplies refusals ∧ built value

namespace Refusal

variable {refusal : Refusal} {refusals others : List Refusal} {error : MatcherError}

theorem onlyIf_of {condition : Prop} (h : condition) : refusal.onlyIf condition = refusal := by
  simp [onlyIf, h]

theorem not_firstReports_nil : ¬ FirstReports [] error := nofun

theorem firstReports_cons_iff :
    FirstReports (refusal :: refusals) error ↔
      refusal.applies ∧ refusal.reports error ∨
        ¬ refusal.applies ∧ FirstReports refusals error := by
  refine ⟨?_, ?_⟩
  · rintro (⟨happlies, hreports⟩ | ⟨hnot, hfirst⟩)
    · exact .inl ⟨happlies, hreports⟩
    · exact .inr ⟨hnot, hfirst⟩
  · rintro (⟨happlies, hreports⟩ | ⟨hnot, hfirst⟩)
    · exact .here happlies hreports
    · exact .later hnot hfirst

theorem noneApplies_nil : NoneApplies [] := nofun

theorem noneApplies_cons_iff :
    NoneApplies (refusal :: refusals) ↔ ¬ refusal.applies ∧ NoneApplies refusals :=
  List.forall_mem_cons

theorem noneApplies_append_iff :
    NoneApplies (refusals ++ others) ↔ NoneApplies refusals ∧ NoneApplies others :=
  List.forall_mem_append

/-- The later of two lists counts only if nothing in the earlier one applies. -/
theorem firstReports_append_iff :
    FirstReports (refusals ++ others) error ↔
      FirstReports refusals error ∨ NoneApplies refusals ∧ FirstReports others error := by
  induction refusals with
  | nil => simp [not_firstReports_nil, noneApplies_nil]
  | cons refusal refusals ih =>
    rw [List.cons_append, firstReports_cons_iff, firstReports_cons_iff, noneApplies_cons_iff, ih]
    tauto

theorem FirstReports.not_noneApplies (h : FirstReports refusals error) :
    ¬ NoneApplies refusals := by
  induction h with
  | here happlies _ => exact fun hnone => (noneApplies_cons_iff.mp hnone).1 happlies
  | later _ _ ih => exact fun hnone => ih (noneApplies_cons_iff.mp hnone).2

end Refusal

namespace RefusedBy

variable {α β : Type} {refusal : Refusal} {refusals others : List Refusal}
  {outcome : Except MatcherError α} {built : α → Prop}

/-- A value is the outcome if nothing is left that applies. -/
theorem pure (hnone : Refusal.NoneApplies refusals) (value : α) :
    RefusedBy refusals (.ok value) (· = value) where
  error error := by
    have hnot : ¬ Refusal.FirstReports refusals error := fun hfirst => hfirst.not_noneApplies hnone
    simp [hnot]
  ok other := by simp [hnone, eq_comm]

/-- Where nothing applies, only what is built matters. -/
theorem congr {other : α → Prop} (h : RefusedBy refusals outcome built)
    (hbuilt : Refusal.NoneApplies refusals → ∀ value, built value ↔ other value) :
    RefusedBy refusals outcome other where
  error := h.error
  ok value := by
    rw [h.ok]
    exact and_congr_right fun hnone => hbuilt hnone value

/-- A check that passes: its refusal does not apply. -/
theorem of_ok {value : α} (hnot : ¬ refusal.applies)
    (hbuilt : ∀ other, built other ↔ other = value) :
    RefusedBy [refusal] (.ok value) built := by
  have hnone : Refusal.NoneApplies [refusal] :=
    Refusal.noneApplies_cons_iff.mpr ⟨hnot, Refusal.noneApplies_nil⟩
  exact (pure hnone value).congr fun _ other => (hbuilt other).symm

/-- A check that fails: its refusal applies, and this is the only error that reports it. -/
theorem of_error {error : MatcherError} (happlies : refusal.applies)
    (hreports : ∀ other, refusal.reports other ↔ other = error) :
    RefusedBy (refusal :: refusals) (.error error) built where
  error other := by simp [Refusal.firstReports_cons_iff, happlies, hreports, eq_comm]
  ok value := by simp [Refusal.noneApplies_cons_iff, happlies]

/-- The refusals of a second step come after those of the first. -/
theorem bind {next : α → Except MatcherError β} {final : α → β → Prop}
    (h : RefusedBy refusals outcome built)
    (hnext : ∀ value, built value → RefusedBy others (next value) (final value)) :
    RefusedBy (refusals ++ others) (outcome >>= next)
      (fun result => ∃ value, built value ∧ final value result) where
  error error := by
    rw [Refusal.firstReports_append_iff]
    cases houtcome : outcome with
    | error found =>
      -- Something in the first list applies, so the second does not count.
      have hsome := ((h.error found).mp houtcome).not_noneApplies
      rw [error_bind, ← h.error, houtcome]
      simp [hsome]
    | ok value =>
      obtain ⟨hnone, hbuilt⟩ := (h.ok value).mp houtcome
      have hnot : ¬ Refusal.FirstReports refusals error :=
        fun hfirst => hfirst.not_noneApplies hnone
      rw [ok_bind, (hnext value hbuilt).error]
      simp [hnone, hnot]
  ok result := by
    rw [bind_eq_ok_iff, Refusal.noneApplies_append_iff]
    refine ⟨?_, ?_⟩
    · rintro ⟨value, houtcome, hresult⟩
      obtain ⟨hnone, hbuilt⟩ := (h.ok value).mp houtcome
      obtain ⟨hothers, hfinal⟩ := ((hnext value hbuilt).ok result).mp hresult
      exact ⟨⟨hnone, hothers⟩, value, hbuilt, hfinal⟩
    · rintro ⟨⟨hnone, hothers⟩, value, hbuilt, hfinal⟩
      exact ⟨value, (h.ok value).mpr ⟨hnone, hbuilt⟩,
        ((hnext value hbuilt).ok result).mpr ⟨hothers, hfinal⟩⟩

/-- A refusal that does not apply may stand anywhere in front. -/
theorem skip (h : RefusedBy refusals outcome built) (hnot : ¬ refusal.applies) :
    RefusedBy (refusal :: refusals) outcome built where
  error error := by
    rw [h.error, Refusal.firstReports_cons_iff]
    simp [hnot]
  ok value := by
    rw [h.ok, Refusal.noneApplies_cons_iff]
    simp [hnot]

/-- Where nothing applies, something is built. -/
theorem exists_built (h : RefusedBy refusals outcome built) (hnone : Refusal.NoneApplies refusals) :
    ∃ value, built value := by
  cases houtcome : outcome with
  | error error => exact absurd hnone ((h.error error).mp houtcome).not_noneApplies
  | ok value => exact ⟨value, ((h.ok value).mp houtcome).2⟩

/-- A first step whose result is not used. -/
theorem andThen {next : Except MatcherError β} {final : β → Prop}
    (h : RefusedBy refusals outcome built) (hnext : RefusedBy others next final) :
    RefusedBy (refusals ++ others) (outcome >>= fun _ => next) final := by
  refine (h.bind fun _ _ => hnext).congr fun hnone result => ?_
  obtain ⟨value, hvalue⟩ := h.exists_built (Refusal.noneApplies_append_iff.mp hnone).1
  exact ⟨fun ⟨_, _, hfinal⟩ => hfinal, fun hfinal => ⟨value, hvalue, hfinal⟩⟩

end RefusedBy

/-! ## Checks -/

namespace MatcherConfig

theorem refusedBy_checkLength (maximum : Nat) (text : Text) :
    RefusedBy [.tooLong text maximum] (checkLength maximum text) (fun _ => True) := by
  rw [checkLength]
  split
  · next hlong => exact .of_error hlong fun _ => Iff.rfl
  · next hwithin => exact .of_ok hwithin fun _ => by simp

/-- What can be encoded is refused by the engine only. -/
theorem refusedBy_compile (string : String) :
    RefusedBy [.noPattern string]
      ((Regex.Pattern.compile string).mapError (.invalidPattern string))
      (fun pattern => (string : Text) = pattern.text) := by
  cases hcompile : Regex.Pattern.compile string with
  | error cause =>
    refine .of_error ?_ fun other => ?_
    · simp [Refusal.noPattern, hcompile]
    · simp [Refusal.noPattern, hcompile]
  | ok compiled =>
    have htext := Regex.Pattern.text_of_compile hcompile
    refine .of_ok ?_ fun pattern => ⟨fun h => ?_, fun h => h ▸ congrArg Text.ofString htext.symm⟩
    · simp [Refusal.noPattern, hcompile]
    · exact Regex.Pattern.eq_of_text_eq ((Text.ofString_injective h).symm.trans htext.symm)

theorem refusedBy_compilePattern (text : Text) :
    RefusedBy [.unencodable text, .noPattern text] (compilePattern text)
      (fun pattern => text = pattern.text) := by
  cases hstring : text.toString? with
  | none =>
    have hnone : ¬ ∃ string : String, text = string := by
      rintro ⟨string, rfl⟩
      rw [Text.toString?_ofString] at hstring
      cases hstring
    rw [compilePattern, hstring]
    exact .of_error hnone fun _ => Iff.rfl
  | some string =>
    obtain rfl := Text.toString?_eq_some_iff.mp hstring
    rw [compilePattern_ofString]
    exact (refusedBy_compile string).skip (not_not.mpr ⟨string, rfl⟩)

/-- The grammar refuses what the reader refuses. -/
theorem refusedBy_readDescriptor (text : Text) :
    RefusedBy [.noDescriptor text]
      ((MethodDescriptor.read text).mapError MatcherError.invalidDescriptor)
      (fun parsed => parsed.text = text) := by
  have hgrammar : (∃ parameters result, Grammar.IsDescriptor text parameters result) ↔
      ∃ parsed, MethodDescriptor.read text = .ok parsed := by
    rw [← MethodDescriptor.isMethodDescriptor_iff_isDescriptor, isMethodDescriptor_iff]
  by_cases hread : ∃ parsed, MethodDescriptor.read text = .ok parsed
  · obtain ⟨parsed, hparsed⟩ := hread
    rw [hparsed]
    refine .of_ok (fun hnone => hnone (hgrammar.mpr ⟨parsed, hparsed⟩)) fun other => ?_
    have htext := MethodDescriptor.read_eq_ok_iff.mp hparsed
    exact ⟨fun h => MethodDescriptor.text_injective (h.trans htext), fun h => h ▸ htext.symm⟩
  · obtain ⟨fault, hfault⟩ := MethodDescriptor.exists_read_eq_error (not_exists.mp hread)
    rw [hfault]
    refine .of_error (fun hgiven => hread (hgrammar.mp hgiven)) fun other => ?_
    simp [Refusal.noDescriptor, hfault]

/-! ## Halves -/

/-- The limit of a value and the compilation of a pattern. -/
theorem refusedBy_pattern (text : Text) :
    RefusedBy [.tooLong text maxPatternLength, .unencodable text, .noPattern text]
      (checkLength maxPatternLength text >>= fun _ => compilePattern text)
      (fun pattern => text = pattern.text) :=
  (refusedBy_checkLength maxPatternLength text).andThen (refusedBy_compilePattern text)

theorem variantLimit_regex : variantLimit "regex" = maxPatternLength := if_pos rfl

theorem variantLimit_of_ne {variant : Text} (h : variant ≠ "regex") :
    variantLimit variant = maxNameLength := if_neg h

theorem refusedBy_loadClass (format : NameFormat) (choice : ClassChoice) :
    RefusedBy choice.refusals (loadClass format choice).outcome (choice.Builds format) := by
  obtain ⟨variant, text⟩ := choice
  rw [ClassChoice.refusals]
  -- An unknown variant is refused before anything else, and the others have an equation each.
  by_cases hvariant : variant ∈ (["exact", "regex"] : List Text)
  · refine .skip ?_ (not_not.mpr hvariant)
    obtain rfl | rfl : variant = "exact" ∨ variant = "regex" := by simpa using hvariant
    · rw [outcome_loadClass_exact, variantLimit_of_ne (by decide : ("exact" : Text) ≠ "regex")]
      refine ((refusedBy_checkLength maxNameLength text).andThen (.pure ?_ _)).congr
        fun _ classes => ?_
      · simp [Refusal.NoneApplies, Refusal.onlyIf]
      · cases classes <;> simp [ClassChoice.Builds]
    · rw [outcome_loadClass_regex, variantLimit_regex, Refusal.onlyIf_of rfl,
        Refusal.onlyIf_of rfl, ← bind_assoc]
      refine ((refusedBy_pattern text).bind fun pattern _ =>
        .pure Refusal.noneApplies_nil _).congr fun _ classes => ?_
      cases classes <;> simp [ClassChoice.Builds]
  · rw [outcome_loadClass_unknown format hvariant]
    exact .of_error hvariant fun _ => Iff.rfl

theorem refusedBy_loadMethod (choice : MethodChoice) :
    RefusedBy choice.refusals (loadMethod choice).outcome choice.Builds := by
  obtain ⟨variant, text, descriptor⟩ := choice
  rw [MethodChoice.refusals]
  by_cases hvariant : variant ∈ (["name", "regex", "signature"] : List Text)
  · refine .skip ?_ (not_not.mpr hvariant)
    obtain rfl | rfl | rfl : variant = "name" ∨ variant = "regex" ∨ variant = "signature" := by
      simpa using hvariant
    · rw [outcome_loadMethod_name, variantLimit_of_ne (by decide : ("name" : Text) ≠ "regex")]
      refine ((refusedBy_checkLength maxNameLength text).andThen (.pure ?_ _)).congr
        fun _ methods => ?_
      · simp [Refusal.NoneApplies, Refusal.onlyIf]
      · cases methods <;> simp [MethodChoice.Builds]
    · rw [outcome_loadMethod_regex, variantLimit_regex, Refusal.onlyIf_of rfl,
        Refusal.onlyIf_of rfl, ← bind_assoc]
      refine ((refusedBy_pattern text).bind fun pattern _ => .pure ?_ _).congr fun _ methods => ?_
      · simp [Refusal.NoneApplies, Refusal.onlyIf]
      · cases methods <;> simp [MethodChoice.Builds]
    · have hregex : ("signature" : Text) ≠ "regex" := by decide
      rw [outcome_loadMethod_signature, variantLimit_of_ne hregex,
        Refusal.onlyIf_of rfl, Refusal.onlyIf_of rfl]
      have hdescriptor := (refusedBy_checkLength maxNameLength (descriptor.getD "")).andThen
        ((refusedBy_readDescriptor (descriptor.getD "")).andThen
          (.pure Refusal.noneApplies_nil (MethodMatcher.signature text (descriptor.getD ""))))
      -- Between the lengths stand the refusals of patterns, which a signature has none of.
      refine ((refusedBy_checkLength maxNameLength text).andThen
        ((hdescriptor.skip ?_).skip ?_)).congr fun _ methods => ?_
      · simp [Refusal.onlyIf]
      · simp [Refusal.onlyIf]
      · cases methods <;> simp [MethodChoice.Builds]
  · rw [outcome_loadMethod_unknown hvariant]
    exact .of_error hvariant fun _ => Iff.rfl

/-! ## Configurations -/

/-- A class test that a choice builds is spelled in the format, so that its matcher is built too. -/
theorem refusedBy_ofParts {format : NameFormat} {choice : ClassChoice} {classes : ClassMatcher}
    (h : choice.Builds format classes) (methods : MethodMatcher) :
    RefusedBy [] (Matcher.ofParts classes methods format)
      (fun matcher => matcher.classes = classes ∧ matcher.methods = methods ∧
        matcher.format = format) := by
  have hspelled : classes.IsSpelledIn format := by
    cases classes with
    | exact name =>
      -- The name was put into the format, which leaves it alone from then on.
      obtain ⟨-, rfl⟩ := h
      exact NameFormat.normalize_normalize format format choice.value
    | regex pattern => trivial
  have hbuilt : Matcher.ofParts classes methods format =
      .ok ⟨classes, methods, format, hspelled⟩ := by
    cases classes with
    | exact name => exact Matcher.ofParts_exact_of_spelled hspelled methods
    | regex pattern => rfl
  rw [hbuilt]
  refine (RefusedBy.pure Refusal.noneApplies_nil _).congr fun _ matcher => ?_
  obtain ⟨_, _, _, _⟩ := matcher
  simp

theorem refusedBy_load (config : MatcherConfig) :
    RefusedBy config.refusals config.load.outcome config.Builds := by
  rw [outcome_load, refusals]
  refine ((refusedBy_loadClass config.format config.classes).bind fun classes hclasses =>
    ((refusedBy_loadMethod config.methods).bind fun methods _ =>
      refusedBy_ofParts hclasses methods)).congr fun _ matcher => ⟨?_, ?_⟩
  -- The parts that were built in between are those of the matcher.
  · rintro ⟨classes, hclasses, methods, hmethods, rfl, rfl, hformat⟩
    exact ⟨hclasses, hmethods, hformat⟩
  · rintro ⟨hclasses, hmethods, hformat⟩
    exact ⟨_, hclasses, _, hmethods, rfl, rfl, hformat⟩

end MatcherConfig

/-! ## Patterns that are compiled -/

namespace Logged

variable {α β : Type}

/-- Loading has tried to compile a pattern: if it compiled there is a line for it, and otherwise it
    is what loading failed by. -/
inductive Tries (loaded : Logged α) (pattern : Text) : Prop where
  | classPattern : .classPattern pattern ∈ loaded.log → Tries loaded pattern
  | methodPattern : .methodPattern pattern ∈ loaded.log → Tries loaded pattern
  | refused {string : String} {cause : Regex.Error} :
    pattern = string → loaded.outcome = .error (.invalidPattern string cause) →
    Tries loaded pattern

/-- Only patterns within the limit are tried. -/
def TriesWithin (limit : Nat) (loaded : Logged α) : Prop :=
  ∀ pattern, loaded.Tries pattern → pattern.length ≤ limit

variable {limit : Nat}

theorem triesWithin_pure (value : α) : TriesWithin limit (pure value : Logged α) := by
  rintro pattern (hmem | hmem | ⟨-, houtcome⟩)
  · cases hmem
  · cases hmem
  · cases houtcome

/-- What logs nothing tries the pattern that it fails by. -/
theorem triesWithin_ofExcept {outcome : Except MatcherError α}
    (h : ∀ pattern cause, outcome = .error (.invalidPattern pattern cause) →
      pattern.length ≤ limit) : TriesWithin limit (ofExcept outcome) := by
  rintro pattern (hmem | hmem | ⟨rfl, houtcome⟩)
  · cases hmem
  · cases hmem
  · rw [Text.length_ofString]
    exact h _ _ houtcome

theorem triesWithin_tell {entry : LogEntry}
    (h : ∀ pattern, entry = .classPattern pattern ∨ entry = .methodPattern pattern →
      pattern.length ≤ limit) : TriesWithin limit (tell entry) := by
  rintro pattern (hmem | hmem | ⟨-, houtcome⟩)
  · exact h pattern (.inl (List.mem_singleton.mp hmem).symm)
  · exact h pattern (.inr (List.mem_singleton.mp hmem).symm)
  · cases houtcome

theorem TriesWithin.bind {first : Logged α} {next : α → Logged β} (h : first.TriesWithin limit)
    (hnext : ∀ value, first.outcome = .ok value → (next value).TriesWithin limit) :
    (first >>= next).TriesWithin limit := by
  intro pattern htries
  cases houtcome : first.outcome with
  | error error =>
    rw [bind_of_error houtcome] at htries
    refine h pattern ?_
    rcases htries with hmem | hmem | ⟨htext, hrefused⟩
    · exact .classPattern hmem
    · exact .methodPattern hmem
    · exact .refused htext (houtcome.trans (congrArg Except.error (Except.error.inj hrefused)))
  | ok value =>
    rw [bind_of_ok houtcome] at htries
    rcases htries with hmem | hmem | ⟨htext, hrefused⟩
    · rcases List.mem_append.mp hmem with hfirst | hsecond
      · exact h pattern (.classPattern hfirst)
      · exact hnext value houtcome pattern (.classPattern hsecond)
    · rcases List.mem_append.mp hmem with hfirst | hsecond
      · exact h pattern (.methodPattern hfirst)
      · exact hnext value houtcome pattern (.methodPattern hsecond)
    · exact hnext value houtcome pattern (.refused htext hrefused)

end Logged

namespace MatcherConfig

theorem triesWithin_checkLength {limit : Nat} (maximum : Nat) (text : Text) :
    (Logged.ofExcept (checkLength maximum text)).TriesWithin limit := by
  refine Logged.triesWithin_ofExcept fun pattern cause h => ?_
  rw [checkLength] at h
  split at h <;> cases h

theorem text_of_invalidPattern {text : Text} {pattern : String} {cause : Regex.Error}
    (h : compilePattern text = .error (.invalidPattern pattern cause)) : text = pattern := by
  unfold compilePattern at h
  split at h
  · cases h
  · next string hstring =>
    cases hcompile : Regex.Pattern.compile string <;> rw [hcompile] at h <;> cases h
    exact Text.toString?_eq_some_iff.mp hstring

/-- The length is checked first, so a pattern that is too long is never tried. -/
theorem triesWithin_loadPattern {entry : Text → LogEntry} {text : Text}
    (hentry : ∀ pattern,
      entry text = .classPattern pattern ∨ entry text = .methodPattern pattern → pattern = text) :
    (loadPattern entry text).TriesWithin maxPatternLength := by
  rw [loadPattern]
  refine (triesWithin_checkLength maxPatternLength text).bind fun _ hcheck => ?_
  -- What comes after the check may rely on its success, whichever way compiling ends.
  have hlength : text.length ≤ maxPatternLength := by
    by_contra hlong
    rw [Logged.outcome_ofExcept, checkLength, if_pos (Nat.not_le.mp hlong)] at hcheck
    cases hcheck
  have hcompile : (Logged.ofExcept (compilePattern text)).TriesWithin maxPatternLength := by
    refine Logged.triesWithin_ofExcept fun pattern cause h => ?_
    rw [text_of_invalidPattern h, Text.length_ofString] at hlength
    exact hlength
  have htell : (Logged.tell (entry text)).TriesWithin maxPatternLength :=
    Logged.triesWithin_tell fun pattern h => hentry pattern h ▸ hlength
  exact hcompile.bind fun _ _ => htell.bind fun _ _ => Logged.triesWithin_pure _

theorem triesWithin_loadClass (format : NameFormat) (choice : ClassChoice) :
    (loadClass format choice).TriesWithin maxPatternLength := by
  rw [loadClass]
  split
  · exact (triesWithin_checkLength _ _).bind fun _ _ => Logged.triesWithin_pure _
  · split
    · exact (triesWithin_loadPattern (by simp [eq_comm])).bind fun _ _ => Logged.triesWithin_pure _
    · exact Logged.triesWithin_ofExcept (by simp)

theorem triesWithin_loadMethod (choice : MethodChoice) :
    (loadMethod choice).TriesWithin maxPatternLength := by
  rw [loadMethod]
  split
  · exact (triesWithin_checkLength _ _).bind fun _ _ => Logged.triesWithin_pure _
  split
  · exact (triesWithin_loadPattern (by simp [eq_comm])).bind fun _ _ => Logged.triesWithin_pure _
  split
  · refine (triesWithin_checkLength _ _).bind fun _ _ => (triesWithin_checkLength _ _).bind
      fun _ _ => (Logged.triesWithin_ofExcept fun pattern cause h => ?_).bind
        fun _ _ => Logged.triesWithin_pure _
    cases hread : MethodDescriptor.read (choice.descriptor.getD "") <;> rw [hread] at h <;> cases h
  · exact Logged.triesWithin_ofExcept (by simp)

theorem triesWithin_ofParts {limit : Nat} (classes : ClassMatcher) (methods : MethodMatcher)
    (format : NameFormat) :
    (Logged.ofExcept (Matcher.ofParts classes methods format)).TriesWithin limit := by
  refine Logged.triesWithin_ofExcept fun pattern cause h => ?_
  cases classes with
  | exact name =>
    rw [Matcher.ofParts] at h
    split at h <;> cases h
  | regex regex => cases h

theorem triesWithin_load (config : MatcherConfig) : config.load.TriesWithin maxPatternLength := by
  rw [load]
  refine (triesWithin_loadClass _ _).bind fun classes _ => (triesWithin_loadMethod _).bind
    fun methods _ => (triesWithin_ofParts classes methods _).bind fun matcher _ => ?_
  have htell : (Logged.tell (.matcher matcher.describe)).TriesWithin maxPatternLength :=
    Logged.triesWithin_tell (by simp)
  exact htell.bind fun _ _ => Logged.triesWithin_pure _

/-- Only a signature has its descriptor looked at. -/
theorem load_descriptor_of_ne_signature {config : MatcherConfig}
    (h : config.methods.variant ≠ "signature") (descriptor : Option Text) :
    load { config with methods := { config.methods with descriptor } } = config.load := by
  have hmethod : loadMethod { config.methods with descriptor } = loadMethod config.methods := by
    simp only [loadMethod, if_neg h]
  rw [load, hmethod, load]

/-- Loading a configuration fails exactly by the first refusal that applies. If none does, there is
    a matcher, and it carries the values of the configuration. No pattern beyond the limit is
    ever compiled, and a descriptor without a signature makes no difference. -/
theorem load_reports_first_refusal (config : MatcherConfig) :
    (∀ error, config.load.outcome = .error error ↔
      Refusal.FirstReports config.refusals error) ∧
    ((∃ matcher, config.load.outcome = .ok matcher) ↔ Refusal.NoneApplies config.refusals) ∧
    (∀ matcher, config.load.outcome = .ok matcher → config.Builds matcher) ∧
    (∀ pattern, config.load.Tries pattern → pattern.length ≤ 4096) ∧
    (config.methods.variant ≠ "signature" → ∀ descriptor,
      load { config with methods := { config.methods with descriptor } } = config.load) := by
  have hload := refusedBy_load config
  refine ⟨hload.error, ⟨?_, ?_⟩, ?_, triesWithin_load config, load_descriptor_of_ne_signature⟩
  · rintro ⟨matcher, hmatcher⟩
    exact ((hload.ok matcher).mp hmatcher).1
  · intro hnone
    obtain ⟨matcher, hbuilt⟩ := hload.exists_built hnone
    exact ⟨matcher, (hload.ok matcher).mpr ⟨hnone, hbuilt⟩⟩
  · intro matcher hmatcher
    exact ((hload.ok matcher).mp hmatcher).2

/-- Configurations with several faults: a class pattern that is too long and no expression, before
    an unknown method variant, and a literal class before a signature without a descriptor. -/
theorem load_reports_first_refusal_faults :
    (load ⟨⟨"regex", String.ofList (List.replicate 4097 '(')⟩, ⟨"nome", "run", none⟩,
      .internal⟩).outcome = .error (.tooLong 4097 4096) ∧
    ∃ fault, (load ⟨⟨"exact", "a.B"⟩, ⟨"signature", "run", none⟩, .internal⟩).outcome =
      .error (.invalidDescriptor ⟨"", fault⟩) := by
  have hlength : (String.ofList (List.replicate 4097 '(')).length = 4097 := by
    rw [String.length_ofList, List.length_replicate]
  have hread : MethodDescriptor.read "" = .error ⟨"", .missingOpening⟩ := by cbv
  have hgrammar : ¬ ∃ parameters result, Grammar.IsDescriptor "" parameters result := by
    rw [← MethodDescriptor.isMethodDescriptor_iff_isDescriptor]
    decide
  -- Of the long text only its length matters, so that it need not be computed with.
  generalize String.ofList (List.replicate 4097 '(') = long at hlength ⊢
  refine ⟨((load_reports_first_refusal _).1 _).mpr ?_, .missingOpening,
    ((load_reports_first_refusal _).1 _).mpr ?_⟩
  · refine .later (by simp [Refusal.unknown]) (.here ?_ ?_)
    · simp [Refusal.tooLong, variantLimit, hlength]
    · simp [Refusal.tooLong, variantLimit, hlength]
  · -- Nothing applies to the class, nor to the method before its descriptor.
    refine .later ?_ (.later ?_ (.later ?_ (.later ?_ (.later ?_ (.later ?_ (.later ?_ (.later ?_
      (.later ?_ (.here ?_ ⟨.missingOpening, hread, rfl⟩)))))))))
    · simp [Refusal.unknown]
    · exact Nat.not_lt.mpr (by decide)
    · simp [Refusal.onlyIf]
    · simp [Refusal.onlyIf]
    · simp [Refusal.unknown]
    · exact Nat.not_lt.mpr (by decide)
    · simp [Refusal.onlyIf]
    · simp [Refusal.onlyIf]
    · exact fun happlies => absurd happlies.2 (Nat.not_lt.mpr (by decide))
    · exact ⟨rfl, hgrammar⟩

/-- A class pattern that is half of a surrogate pair keeps to the limit, and is yet not refused as a
    pattern that does not compile. -/
theorem load_of_lone_surrogate :
    ¬ variantLimit "regex" < (Text.ofList [.surrogate 0]).length ∧
    (load ⟨⟨"regex", .ofList [.surrogate 0]⟩, ⟨"name", "m", none⟩, .internal⟩).outcome =
      .error (.raised ⟨"UnicodeEncodeError",
        "'utf-8' codec can't encode character '\\ud800' in position 0: " ++
          "surrogates not allowed"⟩) :=
  ⟨by decide, rfl⟩

end MatcherConfig
end CallSites
