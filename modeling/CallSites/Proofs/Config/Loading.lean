/-
  CallSites.Proofs.Config.Loading

  What loading a configuration comes to, one equation for each variant of its two halves.
-/
import CallSites.Config.Load
import CallSites.Proofs.Matcher.Literal
import CallSites.Proofs.Outcome

namespace CallSites
namespace MatcherConfig

/-! ## Halves -/

theorem outcome_loadPattern (entry : Text → LogEntry) (text : Text) :
    (loadPattern entry text).outcome =
      checkLength maxPatternLength text >>= fun _ => compilePattern text := by
  simp only [loadPattern, Logged.outcome_bind, Logged.outcome_ofExcept, Logged.outcome_tell,
    Logged.outcome_pure]
  cases compilePattern text <;> rfl

theorem outcome_loadClass_exact (format : NameFormat) (name : Text) :
    (loadClass format ⟨"exact", name⟩).outcome =
      checkLength maxNameLength name >>= fun _ => .ok (.exact (format.normalize name)) := by
  simp [loadClass]

theorem outcome_loadClass_regex (format : NameFormat) (text : Text) :
    (loadClass format ⟨"regex", text⟩).outcome =
      checkLength maxPatternLength text >>= fun _ =>
        compilePattern text >>= fun pattern => .ok (.regex pattern) := by
  simp [loadClass, outcome_loadPattern]

theorem outcome_loadClass_unknown (format : NameFormat) {choice : ClassChoice}
    (h : choice.variant ∉ (["exact", "regex"] : List Text)) :
    (loadClass format choice).outcome =
      .error (.config (.unknownClassVariant choice.variant)) := by
  obtain ⟨hexact, hregex⟩ : choice.variant ≠ "exact" ∧ choice.variant ≠ "regex" := by simpa using h
  rw [loadClass, if_neg hexact, if_neg hregex, Logged.outcome_ofExcept]

theorem outcome_loadMethod_name (name : Text) (descriptor : Option Text) :
    (loadMethod ⟨"name", name, descriptor⟩).outcome =
      checkLength maxNameLength name >>= fun _ => .ok (.named name) := by
  simp [loadMethod]

theorem outcome_loadMethod_regex (text : Text) (descriptor : Option Text) :
    (loadMethod ⟨"regex", text, descriptor⟩).outcome =
      checkLength maxPatternLength text >>= fun _ =>
        compilePattern text >>= fun pattern => .ok (.regex pattern) := by
  simp [loadMethod, outcome_loadPattern]

theorem outcome_loadMethod_signature (name : Text) (descriptor : Option Text) :
    (loadMethod ⟨"signature", name, descriptor⟩).outcome =
      checkLength maxNameLength name >>= fun _ =>
        checkLength maxNameLength (descriptor.getD "") >>= fun _ =>
          (MethodDescriptor.read (descriptor.getD "")).mapError .invalidDescriptor >>= fun _ =>
            .ok (.signature name (descriptor.getD "")) := by
  simp [loadMethod]

theorem outcome_loadMethod_unknown {choice : MethodChoice}
    (h : choice.variant ∉ (["name", "regex", "signature"] : List Text)) :
    (loadMethod choice).outcome = .error (.config (.unknownMethodVariant choice.variant)) := by
  obtain ⟨hname, hregex, hsignature⟩ :
      choice.variant ≠ "name" ∧ choice.variant ≠ "regex" ∧ choice.variant ≠ "signature" := by
    simpa using h
  rw [loadMethod, if_neg hname, if_neg hregex, if_neg hsignature, Logged.outcome_ofExcept]

/-! ## Matchers -/

theorem outcome_load (config : MatcherConfig) :
    config.load.outcome =
      (loadClass config.format config.classes).outcome >>= fun classes =>
        (loadMethod config.methods).outcome >>= fun methods =>
          Matcher.ofParts classes methods config.format := by
  simp only [load, Logged.outcome_bind, Logged.outcome_ofExcept, Logged.outcome_tell,
    Logged.outcome_pure]
  cases (loadClass config.format config.classes).outcome with
  | error error => rfl
  | ok classes =>
    cases (loadMethod config.methods).outcome with
    | error error => rfl
    | ok methods =>
      change (Matcher.ofParts classes methods config.format >>= fun matcher => .ok matcher)
        = Matcher.ofParts classes methods config.format
      cases Matcher.ofParts classes methods config.format <;> rfl

end MatcherConfig
end CallSites
