/-
  CallSites.Proofs.Config.Log

  What loading one configuration logs: a line for each pattern that was compiled, the class before
  the method, and one for the matcher. If loading fails, only the line of the class pattern can be
  there, since the method test is the last thing that can fail.
-/
import CallSites.Proofs.Config.Loading

namespace CallSites

/-! ## The lines of a configuration -/

/-- A pattern that the loader accepts: within its limit, and of characters that denote an
    expression. -/
def Compiles (text : Text) : Prop :=
  text.length ≤ maxPatternLength ∧ text.toString?.any (fun text => (Regex.parse text).isOk) = true

instance (text : Text) : Decidable (Compiles text) :=
  inferInstanceAs (Decidable (_ ∧ _))

/-- The line of a class pattern, if the class is tested by one. -/
def ClassChoice.patternLog (choice : ClassChoice) : List LogEntry :=
  if choice.variant = "regex" then [.classPattern choice.value] else []

/-- The line of a class pattern, if the class is tested by one and it compiles. -/
def ClassChoice.compiledLog (choice : ClassChoice) : List LogEntry :=
  if choice.variant = "regex" ∧ Compiles choice.value then [.classPattern choice.value] else []

/-- The line of a method pattern, if the method is tested by one. -/
def MethodChoice.patternLog (choice : MethodChoice) : List LogEntry :=
  if choice.variant = "regex" then [.methodPattern choice.value] else []

/-- All lines of a configuration from which a matcher is built. -/
def MatcherConfig.completeLog (config : MatcherConfig) (matcher : Matcher) : List LogEntry :=
  config.classes.patternLog ++ config.methods.patternLog ++ [.matcher matcher.describe]

namespace MatcherConfig

/-! ## Patterns -/

theorem loadPattern_of_compiles (entry : Text → LogEntry) {text : Text} (h : Compiles text) :
    ∃ pattern, loadPattern entry text = ⟨[entry text], .ok pattern⟩ := by
  obtain ⟨hlength, hany⟩ := h
  have hcheck : checkLength maxPatternLength text = .ok () := if_neg (Nat.not_lt.mpr hlength)
  obtain ⟨string, hstring, hparse⟩ := (Option.any_eq_true _ _).mp hany
  obtain ⟨pattern, hpattern⟩ := exists_compilePattern hparse
  rw [← Text.toString?_eq_some_iff.mp hstring] at hpattern
  exact ⟨pattern, by rw [loadPattern, hcheck, hpattern]; rfl⟩

theorem loadPattern_of_not_compiles (entry : Text → LogEntry) {text : Text}
    (h : ¬ Compiles text) : ∃ error, loadPattern entry text = ⟨[], .error error⟩ := by
  by_cases hlong : maxPatternLength < text.length
  · have hcheck : checkLength maxPatternLength text = .error (.tooLong text.length _) :=
      if_pos hlong
    exact ⟨_, by rw [loadPattern, hcheck]; rfl⟩
  · have hcheck : checkLength maxPatternLength text = .ok () := if_neg hlong
    cases hpattern : compilePattern text with
    | error error => exact ⟨error, by rw [loadPattern, hcheck, hpattern]; rfl⟩
    | ok pattern =>
      refine absurd ⟨Nat.not_lt.mp hlong, ?_⟩ h
      rw [text_of_compilePattern hpattern, Text.toString?_ofString, Option.any_some,
        pattern.parse_text]
      rfl

/-! ## Halves -/

/-- A check leaves no line of its own. -/
theorem log_ofExcept_bind {α β : Type} {outcome : Except MatcherError α} {next : α → Logged β}
    (h : ∀ value, (next value).log = []) : (Logged.ofExcept outcome >>= next).log = [] := by
  cases outcome with
  | error error => rfl
  | ok value => exact h value

/-- The class half logs its pattern exactly if that compiles. -/
theorem log_loadClass (format : NameFormat) (choice : ClassChoice) :
    (loadClass format choice).log = choice.compiledLog := by
  by_cases hregex : choice.variant = "regex"
  · have hload : loadClass format choice =
        loadPattern .classPattern choice.value >>= fun pattern => pure (.regex pattern) := by
      rw [loadClass, hregex, if_neg (by decide), if_pos rfl]
    by_cases hcompiles : Compiles choice.value
    · obtain ⟨pattern, hpattern⟩ := loadPattern_of_compiles .classPattern hcompiles
      rw [hload, hpattern, ClassChoice.compiledLog, if_pos ⟨hregex, hcompiles⟩]
      rfl
    · obtain ⟨error, hpattern⟩ := loadPattern_of_not_compiles .classPattern hcompiles
      rw [hload, hpattern, ClassChoice.compiledLog, if_neg fun h => hcompiles h.2]
      rfl
  · have hlog : choice.compiledLog = [] := if_neg fun h => hregex h.1
    rw [hlog, loadClass]
    split
    · exact log_ofExcept_bind fun _ => rfl
    · rfl

theorem compiledLog_of_loadClass {format : NameFormat} {choice : ClassChoice}
    {classes : ClassMatcher} (h : (loadClass format choice).outcome = .ok classes) :
    choice.compiledLog = choice.patternLog := by
  by_cases hregex : choice.variant = "regex"
  · have hcompiles : Compiles choice.value := by
      by_contra hnot
      obtain ⟨error, hpattern⟩ := loadPattern_of_not_compiles .classPattern hnot
      rw [loadClass, hregex, if_neg (by decide), if_pos rfl, hpattern] at h
      cases h
    rw [ClassChoice.compiledLog, ClassChoice.patternLog, if_pos ⟨hregex, hcompiles⟩,
      if_pos hregex]
  · rw [ClassChoice.compiledLog, ClassChoice.patternLog, if_neg hregex,
      if_neg fun h => hregex h.1]

/-- The method half logs its pattern or fails. -/
theorem log_loadMethod (choice : MethodChoice) :
    (loadMethod choice).log =
      if (loadMethod choice).outcome.isOk then choice.patternLog else [] := by
  by_cases hregex : choice.variant = "regex"
  · have hload : loadMethod choice =
        loadPattern .methodPattern choice.value >>= fun pattern => pure (.regex pattern) := by
      rw [loadMethod, hregex, if_neg (by decide), if_pos rfl]
    rw [hload, MethodChoice.patternLog, if_pos hregex]
    by_cases hcompiles : Compiles choice.value
    · obtain ⟨pattern, hpattern⟩ := loadPattern_of_compiles .methodPattern hcompiles
      rw [hpattern]
      rfl
    · obtain ⟨error, hpattern⟩ := loadPattern_of_not_compiles .methodPattern hcompiles
      rw [hpattern]
      rfl
  · have hlog : (loadMethod choice).log = [] := by
      rw [loadMethod, if_neg hregex]
      split
      · exact log_ofExcept_bind fun _ => rfl
      · split
        · exact log_ofExcept_bind fun _ => log_ofExcept_bind fun _ => log_ofExcept_bind fun _ => rfl
        · rfl
    rw [hlog, MethodChoice.patternLog, if_neg hregex, ite_self]

/-! ## Configurations -/

/-- The two halves always fit together: a literal name was put into the format. -/
theorem exists_ofParts_of_loadClass {format : NameFormat} {choice : ClassChoice}
    {classes : ClassMatcher} (h : (loadClass format choice).outcome = .ok classes)
    (methods : MethodMatcher) :
    ∃ matcher, Matcher.ofParts classes methods format = .ok matcher := by
  cases classes with
  | regex pattern => exact ⟨_, rfl⟩
  | exact name =>
    have hname : name = format.normalize choice.value := by
      rw [loadClass] at h
      split at h
      · simp only [Logged.outcome_bind, Logged.outcome_ofExcept, Logged.outcome_pure,
          bind_eq_ok_iff, Except.ok.injEq, ClassMatcher.exact.injEq] at h
        obtain ⟨-, -, rfl⟩ := h
        rfl
      · split at h
        · simp only [Logged.outcome_bind, Logged.outcome_pure, bind_eq_ok_iff, Except.ok.injEq,
            reduceCtorEq, and_false, exists_false] at h
        · cases h
    rw [hname]
    exact ⟨_, Matcher.ofParts_exact_normalize choice.value methods format⟩

/-- A configuration that loads leaves all its lines, one that fails at most that of its class
    pattern. -/
theorem log_load (config : MatcherConfig) :
    config.load.log =
      match config.load.outcome with
      | .ok matcher => config.completeLog matcher
      | .error _ => config.classes.compiledLog := by
  have hclassLog := log_loadClass config.format config.classes
  have hmethodLog := log_loadMethod config.methods
  cases hclass : (loadClass config.format config.classes).outcome with
  | error error =>
    rw [load, Logged.bind_of_error hclass]
    exact hclassLog
  | ok classes =>
    rw [load, Logged.bind_of_ok hclass]
    cases hmethod : (loadMethod config.methods).outcome with
    | error error =>
      rw [Logged.bind_of_error hmethod, hmethodLog, hmethod, hclassLog]
      exact List.append_nil _
    | ok methods =>
      obtain ⟨matcher, hmatcher⟩ := exists_ofParts_of_loadClass hclass methods
      have hpatterns := compiledLog_of_loadClass hclass
      rw [Logged.bind_of_ok hmethod, hmethodLog, hmethod, hclassLog, hpatterns, hmatcher]
      exact (List.append_assoc _ _ _).symm

end MatcherConfig
end CallSites
