/-
  CallSites.Proofs.Matcher.Literal

  Matchers of one class. Their literal is put into the format of the matcher when they are built,
  so that building them never fails. A pattern has no spelling, and building its matcher fails only
  if it cannot be compiled.
-/
import CallSites.Matcher.Basic
import CallSites.Proofs.Outcome

namespace CallSites

/-! ## Patterns -/

/-- A text of characters is encoded, so what is left is to read it. -/
@[simp] theorem compilePattern_ofString (text : String) :
    compilePattern text = (Regex.Pattern.compile text).mapError (.invalidPattern text) := by
  rw [compilePattern, Text.toString?_ofString]

theorem compilePattern_of_parse {text : String} {regex : Regex}
    (h : Regex.parse text = .ok regex) : compilePattern text = .ok ⟨text, regex, h⟩ := by
  rw [compilePattern_ofString, Regex.Pattern.compile]
  split
  · next found hfound =>
    obtain rfl := Except.ok.inj (h.symm.trans hfound)
    rfl
  · next error herror =>
    rw [h] at herror
    cases herror

/-- What is compiled is the text of its pattern. -/
theorem text_of_compilePattern {text : Text} {pattern : Regex.Pattern}
    (h : compilePattern text = .ok pattern) : text = pattern.text := by
  unfold compilePattern at h
  split at h
  · cases h
  · next string hstring =>
    rw [Regex.Pattern.text_of_compile (mapError_eq_ok_iff.mp h)]
    exact Text.toString?_eq_some_iff.mp hstring

/-- A text that denotes an expression is compiled. -/
theorem exists_compilePattern {text : String} (h : (Regex.parse text).isOk = true) :
    ∃ pattern, compilePattern text = .ok pattern := by
  cases hparse : Regex.parse text with
  | error error =>
    rw [hparse] at h
    cases h
  | ok regex => exact ⟨⟨text, regex, hparse⟩, compilePattern_of_parse hparse⟩

/-! ## Common matchers -/

namespace Matcher

/-- The matcher of the class with this name, its literal spelled in the format. -/
def literal (name : Text) (methods : MethodMatcher) (format : NameFormat) : Matcher :=
  ⟨.exact (format.normalize name), methods, format, NameFormat.normalize_normalize _ _ name⟩

theorem ofParts_exact_normalize (name : Text) (methods : MethodMatcher) (format : NameFormat) :
    ofParts (.exact (format.normalize name)) methods format
      = .ok (literal name methods format) :=
  dif_pos (NameFormat.normalize_normalize format format name)

theorem allocations_eq (cls : ClassHandle) (format : NameFormat) :
    allocations cls format = .ok (literal cls.name (.named constructorName) format) :=
  ofParts_exact_normalize cls.name _ format

theorem forName_eq (cls method : Text) (format : NameFormat) :
    forName cls method format = .ok (literal cls (.named method) format) :=
  ofParts_exact_normalize cls _ format

theorem forMethod_eq (cls : ClassHandle) (method : MethodHandle) (format : NameFormat) :
    forMethod cls method format = .ok (literal cls.name (.ofMethod method) format) :=
  ofParts_exact_normalize cls.name _ format

theorem forPatterns_of_compilePattern {cls method : Text} {classes methods : Regex.Pattern}
    (hclasses : compilePattern cls = .ok classes) (hmethods : compilePattern method = .ok methods)
    (format : NameFormat) :
    forPatterns cls method format = .ok ⟨.regex classes, .regex methods, format, trivial⟩ := by
  rw [forPatterns, hclasses, ok_bind, hmethods, ok_bind, ofParts]

/-- Matchers of patterns are built wherever both patterns are compiled. -/
theorem exists_forPatterns {cls method : String} (hcls : (Regex.parse cls).isOk = true)
    (hmethod : (Regex.parse method).isOk = true) (format : NameFormat) :
    ∃ matcher, forPatterns cls method format = .ok matcher := by
  obtain ⟨classes, hclasses⟩ := exists_compilePattern hcls
  obtain ⟨methods, hmethods⟩ := exists_compilePattern hmethod
  exact ⟨_, forPatterns_of_compilePattern hclasses hmethods format⟩

end Matcher

/-! ## Signatures -/

/-- Of the methods of one name, a signature accepts those of its descriptor only. -/
theorem MethodMatcher.accepts_signature_eq_iff {name descriptor descriptor' : Text} :
    (∀ method given, (signature name descriptor).accepts method given
        = (signature name descriptor').accepts method given) ↔
      descriptor = descriptor' := by
  refine ⟨?_, ?_⟩
  · intro h
    have hself := h name descriptor
    simpa [accepts] using hself
  · rintro rfl method given
    rfl

end CallSites
