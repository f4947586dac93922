/-
  CallSites.Proofs.Matcher.Acceptance

  A matcher of literal names is decided by the methods that it accepts: two of them accept the same
  methods exactly if they name the same class, in whichever spelling, and have the same method
  test. So the format of a matcher that is built from names shows in nothing that it selects.
-/
import CallSites.Proofs.Matcher.Literal
import CallSites.Proofs.Matcher.Selection

namespace CallSites

/-! ## Class names -/

/-- A literal in its own format is met by all spellings of the name, and by nothing else. -/
theorem NameFormat.normalize_eq_iff {format : NameFormat} {literal name : Text}
    (hliteral : format.normalize literal = literal) :
    format.normalize name = literal ↔ toInternalName name = toInternalName literal := by
  refine ⟨?_, ?_⟩
  · intro h
    exact normalize_eq_normalize format .internal (h.trans hliteral.symm)
  · intro h
    exact (normalize_eq_normalize .internal format h).trans hliteral

theorem Matcher.acceptsClass_iff_of_exact {matcher : Matcher} {literal name : Text}
    (h : matcher.classes = .exact literal) :
    matcher.acceptsClass name = true ↔ toInternalName name = toInternalName literal := by
  have hspelled := matcher.spelled
  rw [h] at hspelled
  rw [acceptsClass, h, ClassMatcher.accepts, beq_iff_eq]
  exact NameFormat.normalize_eq_iff hspelled

theorem Matcher.acceptsClass_literal_iff {cls name : Text} {methods : MethodMatcher}
    {format : NameFormat} :
    (literal cls methods format).acceptsClass name = true ↔
      toInternalName name = toInternalName cls := by
  have hspelling : toInternalName (format.normalize cls) = toInternalName cls :=
    NameFormat.normalize_normalize .internal format cls
  rw [acceptsClass_iff_of_exact rfl, hspelling]

/-! ## Method tests -/

namespace MethodMatcher

/-- Whether the test compares with given texts. -/
def IsLiteral : MethodMatcher → Prop
  | .regex _ => False
  | .named _ | .signature _ _ => True

/-- A literal test accepts some method. -/
theorem exists_accepts {methods : MethodMatcher} (h : methods.IsLiteral) :
    ∃ name descriptor, methods.accepts name descriptor = true := by
  cases methods with
  | named name => exact ⟨name, "", by simp [accepts]⟩
  | regex => exact h.elim
  | signature name descriptor => exact ⟨name, descriptor, by simp [accepts]⟩

/-- A test of names alone accepts every descriptor, a signature only one. -/
theorem not_accepts_iff_named_signature (name name' descriptor : Text) :
    ¬ ∀ query given, (named name).accepts query given = (signature name' descriptor).accepts query
      given := by
  intro h
  have hone := h name descriptor
  have hother := h name (descriptor ++ "x")
  have hne : ¬ descriptor ++ ("x" : Text) = descriptor := by
    intro heq
    have hlength := congrArg Text.length heq
    simp at hlength
  simp [accepts, hne] at hother

theorem eq_of_accepts_eq {first second : MethodMatcher} (hfirst : first.IsLiteral)
    (hsecond : second.IsLiteral)
    (h : ∀ name descriptor, first.accepts name descriptor = second.accepts name descriptor) :
    first = second := by
  cases first with
  | regex => exact hfirst.elim
  | named name =>
    cases second with
    | regex => exact hsecond.elim
    | named name' =>
      have hname := h name ""
      simp only [accepts, beq_self_eq_true] at hname
      rw [beq_iff_eq.mp hname.symm]
    | signature name' descriptor' => exact absurd h (not_accepts_iff_named_signature _ _ _)
  | signature name descriptor =>
    cases second with
    | regex => exact hsecond.elim
    | named name' =>
      exact absurd (fun query given => (h query given).symm) (not_accepts_iff_named_signature _ _ _)
    | signature name' descriptor' =>
      have hself := h name descriptor
      simp only [accepts, beq_self_eq_true, Bool.and_self] at hself
      obtain ⟨hname, hdescriptor⟩ := Bool.and_eq_true_iff.mp hself.symm
      rw [beq_iff_eq.mp hname, beq_iff_eq.mp hdescriptor]

end MethodMatcher

/-! ## Matchers -/

namespace Matcher

/-- The spelling of its class does not show in a matcher. -/
theorem acceptsClass_literal_congr (cls : Text) (methods methods' : MethodMatcher)
    (format format' : NameFormat) (name : Text) :
    (literal cls methods format).acceptsClass name =
      (literal cls methods' format').acceptsClass name := by
  rw [Bool.eq_iff_iff, acceptsClass_literal_iff, acceptsClass_literal_iff]

theorem select_literal_congr (cls : Text) (methods : MethodMatcher)
    (format format' : NameFormat) (classes : List LoadedClass) :
    (literal cls methods format).select classes = (literal cls methods format').select classes := by
  refine select_congr (fun name method descriptor => ?_) classes
  simp only [accepts, acceptsClass_literal_congr cls methods methods format format']
  rfl

/-- A matcher that is built has the parts that it is built from. -/
theorem parts_of_ofParts {classes : ClassMatcher} {methods : MethodMatcher} {format : NameFormat}
    {matcher : Matcher} (h : ofParts classes methods format = .ok matcher) :
    matcher.classes = classes ∧ matcher.methods = methods := by
  cases classes with
  | regex pattern =>
    cases h
    exact ⟨rfl, rfl⟩
  | exact name =>
    rw [ofParts] at h
    split at h
    · cases h
      exact ⟨rfl, rfl⟩
    · cases h

theorem accepts_eq_iff_of_exact {first second : Matcher} {name name' : Text}
    (hfirst : first.classes = .exact name) (hsecond : second.classes = .exact name')
    (hmethods : first.methods.IsLiteral) (hmethods' : second.methods.IsLiteral) :
    (∀ cls method descriptor, first.accepts cls (some (method, descriptor)) =
        second.accepts cls (some (method, descriptor))) ↔
      toInternalName name = toInternalName name' ∧ first.methods = second.methods := by
  have hown : first.acceptsClass name = true := (acceptsClass_iff_of_exact hfirst).mpr rfl
  refine ⟨?_, ?_⟩
  · intro h
    -- The first matcher accepts a method of its own class, so the second does too.
    obtain ⟨method, descriptor, haccepts⟩ := MethodMatcher.exists_accepts hmethods
    have hboth : second.accepts name (some (method, descriptor)) = true := by
      rw [← h]
      simp [accepts, hown, acceptsMethod, haccepts]
    have hother : second.acceptsClass name = true := (Bool.and_eq_true_iff.mp hboth).1
    refine ⟨(acceptsClass_iff_of_exact hsecond).mp hother, ?_⟩
    -- Within that class only the method tests can differ.
    refine MethodMatcher.eq_of_accepts_eq hmethods hmethods' fun query given => ?_
    have hquery := h name query given
    simpa [accepts, hown, hother, acceptsMethod] using hquery
  · rintro ⟨hname, hsame⟩ cls method descriptor
    have hclass : first.acceptsClass cls = second.acceptsClass cls := by
      rw [Bool.eq_iff_iff, acceptsClass_iff_of_exact hfirst, acceptsClass_iff_of_exact hsecond,
        hname]
    simp only [accepts, hclass, acceptsMethod, hsame]

/-- The matcher of one method accepts what the matcher of its name does, if the descriptor is
    that of the method. -/
theorem acceptsSite_ofMethod (cls : Text) (method : MethodHandle) (format format' : NameFormat)
    (site : CallSite) :
    (literal cls (.ofMethod method) format).acceptsSite site =
      ((literal cls (.named method.name) format').acceptsSite site &&
        (site.descriptor : Text) == method.descriptor.text) := by
  simp only [acceptsSite, accepts,
    acceptsClass_literal_congr cls (.ofMethod method) (.named method.name) format format',
    Bool.and_assoc]
  rfl

/-- Matchers of literal names are told apart by what they accept exactly if they name different
    classes or have different method tests. Hence the format shows in no selection, and a method
    handle selects those sites of its name that have its descriptor. -/
theorem literal_matchers_decided_by_acceptance :
    (∀ name methods format first name' methods' format' second,
      ofParts (.exact name) methods format = .ok first →
      ofParts (.exact name') methods' format' = .ok second →
      methods.IsLiteral → methods'.IsLiteral →
      ((∀ cls method descriptor, first.accepts cls (some (method, descriptor)) =
          second.accepts cls (some (method, descriptor))) ↔
        toInternalName name = toInternalName name' ∧ methods = methods')) ∧
    (∀ cls, ∃ slashed dotted, allocations cls .internal = .ok slashed ∧
      allocations cls .canonical = .ok dotted ∧
      ∀ classes, slashed.select classes = dotted.select classes) ∧
    (∀ cls method, ∃ slashed dotted, forName cls method .internal = .ok slashed ∧
      forName cls method .canonical = .ok dotted ∧
      ∀ classes, slashed.select classes = dotted.select classes) ∧
    (∀ cls method, ∃ slashed dotted, forMethod cls method .internal = .ok slashed ∧
      forMethod cls method .canonical = .ok dotted ∧
      ∀ classes, slashed.select classes = dotted.select classes) ∧
    (∀ cls method format format', ∃ one all, forMethod cls method format = .ok one ∧
      forName cls.name method.name format' = .ok all ∧
      ∀ classes, one.select classes =
        (all.select classes).filter fun site =>
          (site.descriptor : Text) == method.descriptor.text) := by
  refine ⟨?_, ?_, ?_, ?_, ?_⟩
  · intro name methods format first name' methods' format' second hfirst hsecond hliteral hliteral'
    obtain ⟨hclasses, rfl⟩ := parts_of_ofParts hfirst
    obtain ⟨hclasses', rfl⟩ := parts_of_ofParts hsecond
    exact accepts_eq_iff_of_exact hclasses hclasses' hliteral hliteral'
  · intro cls
    exact ⟨_, _, allocations_eq cls .internal, allocations_eq cls .canonical,
      select_literal_congr _ _ _ _⟩
  · intro cls method
    exact ⟨_, _, forName_eq cls method .internal, forName_eq cls method .canonical,
      select_literal_congr _ _ _ _⟩
  · intro cls method
    exact ⟨_, _, forMethod_eq cls method .internal, forMethod_eq cls method .canonical,
      select_literal_congr _ _ _ _⟩
  · intro cls method format format'
    refine ⟨_, _, forMethod_eq cls method format, forName_eq cls.name method.name format', ?_⟩
    intro classes
    rw [select_eq_filter, select_eq_filter, List.filter_filter]
    refine List.filter_congr fun site _ => ?_
    rw [Bool.and_comm]
    exact acceptsSite_ofMethod cls.name method format format' site

/-- One class in both spellings. -/
theorem literal_matchers_decided_by_acceptance_spellings :
    ∃ slashed dotted, ofParts (.exact "a/B") (.signature "run" "()V") .internal = .ok slashed ∧
      ofParts (.exact "a.B") (.signature "run" "()V") .canonical = .ok dotted ∧
      ∀ cls method descriptor, slashed.accepts cls (some (method, descriptor)) =
        dotted.accepts cls (some (method, descriptor)) := by
  have hslashed : NameFormat.internal.normalize "a.B" = "a/B" := by decide +kernel
  have hdotted : NameFormat.canonical.normalize "a.B" = "a.B" := by decide +kernel
  have hfirst := ofParts_exact_normalize "a.B" (.signature "run" "()V") .internal
  have hsecond := ofParts_exact_normalize "a.B" (.signature "run" "()V") .canonical
  rw [hslashed] at hfirst
  rw [hdotted] at hsecond
  have hnames : toInternalName "a/B" = toInternalName "a.B" := by decide +kernel
  exact ⟨_, _, hfirst, hsecond, (literal_matchers_decided_by_acceptance.1 "a/B" _ _ _ "a.B" _ _ _
    hfirst hsecond trivial trivial).mpr ⟨hnames, rfl⟩⟩

end Matcher
end CallSites
