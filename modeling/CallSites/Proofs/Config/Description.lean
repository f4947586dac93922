/-
  CallSites.Proofs.Config.Description

  What the log says of a loaded matcher. Its description quotes the names of the class and of the
  method, but neither patterns nor descriptors, and nothing separates the name of a method from its
  descriptor. Matchers of literal classes are told apart all the same: a quoted name ends by
  itself, and the loader lets no empty descriptor pass.
-/
import CallSites.Proofs.Config.Factory
import CallSites.Proofs.Config.Phases
import CallSites.Proofs.Config.Refusals
import CallSites.Proofs.Text.Quoted

namespace CallSites

/-! ## Methods in words -/

namespace MethodMatcher

/-- The descriptor of a signature is in the grammar. -/
def IsGrammatical : MethodMatcher → Prop
  | .named _ => True
  | .regex _ => True
  | .signature _ descriptor =>
    ∃ parameters result, Grammar.IsDescriptor descriptor parameters result

/-- Nothing after the name means that no descriptor is asked for. -/
theorem describe_signature_empty (name : Text) :
    (signature name "").describe = (named name).describe :=
  Text.toList_injective (List.append_nil _)

/-- A descriptor of the grammar is not empty, so it shows after the name. -/
theorem describe_signature_ne_named {name name' descriptor : Text}
    (h : (signature name descriptor).IsGrammatical) :
    (signature name descriptor).describe ≠ (named name').describe := by
  intro hdescribe
  -- A name alone is described like the signature with an empty descriptor.
  rw [← describe_signature_empty] at hdescribe
  simp only [describe, Text.append_assoc, Text.append_right_inj] at hdescribe
  have hempty : descriptor = "" := (Text.selfDelimiting_quote.append_inj hdescribe).2
  have hnone : ¬ ∃ parameters result, Grammar.IsDescriptor "" parameters result := by
    rw [← MethodDescriptor.isMethodDescriptor_iff_isDescriptor]
    decide
  rw [hempty] at h
  exact hnone h

/-- A pattern is described in other words than a name. -/
theorem describe_regex_ne {pattern : Regex.Pattern} {methods : MethodMatcher}
    (h : ∀ other, methods ≠ .regex other) : (regex pattern).describe ≠ methods.describe := by
  intro hdescribe
  have hchars := congrArg Text.toList hdescribe
  cases methods with
  | regex other => exact h other rfl
  | named | signature => simp [describe] at hchars

theorem eq_of_describe_eq {methods other : MethodMatcher} (hmethods : methods.IsGrammatical)
    (hother : other.IsGrammatical) (h : methods.describe = other.describe) : methods = other := by
  cases methods with
  | named name =>
    cases other with
    | named name' =>
      have hquoted : Text.quote name = Text.quote name' :=
        Text.ofString_injective ((Text.append_right_inj _).mp h)
      rw [Text.selfDelimiting_quote.injective hquoted]
    | regex pattern => exact absurd h.symm (describe_regex_ne nofun)
    | signature name' descriptor => exact absurd h.symm (describe_signature_ne_named hother)
  | regex pattern =>
    cases other with
    | regex pattern' =>
      have htext : pattern.text = pattern'.text :=
        Text.ofString_injective ((Text.append_right_inj _).mp ((Text.append_left_inj _).mp h))
      rw [Regex.Pattern.eq_of_text_eq htext]
    | named | signature => exact absurd h (describe_regex_ne nofun)
  | signature name descriptor =>
    cases other with
    | named name' => exact absurd h (describe_signature_ne_named hmethods)
    | regex pattern => exact absurd h.symm (describe_regex_ne nofun)
    | signature name' descriptor' =>
      simp only [describe, Text.append_assoc, Text.append_right_inj] at h
      obtain ⟨rfl, rfl⟩ := Text.selfDelimiting_quote.append_inj h
      rfl

end MethodMatcher

/-! ## Matchers in words -/

namespace Matcher

/-- The end of a description. -/
def formatNote (format : NameFormat) : Text :=
  " (" ++ format.word ++ " names)"

/-- Two texts that end in different formats are different. -/
theorem append_formatNote_inj {text text' : Text} {format format' : NameFormat}
    (h : text ++ formatNote format = text' ++ formatNote format') :
    text = text' ∧ format = format' := by
  have hformat : format = format' := by
    have hsuffix : (formatNote format).toList <:+ (text' ++ formatNote format').toList := by
      rw [← h, Text.toList_append]
      exact List.suffix_append _ _
    have hsuffix' : (formatNote format').toList <:+ (text' ++ formatNote format').toList := by
      rw [Text.toList_append]
      exact List.suffix_append _ _
    -- Of two suffixes of one text the shorter is one of the longer, and neither note is.
    have heither := List.suffix_or_suffix_of_suffix hsuffix hsuffix'
    revert heither
    cases format <;> cases format' <;> decide
  subst hformat
  exact ⟨(Text.append_left_inj _).mp h, rfl⟩

theorem describe_exact {matcher : Matcher} {name : Text} (h : matcher.classes = .exact name) :
    matcher.describe =
      "class == " ++
        (Text.quote name ++ (", " ++ (matcher.methods.describe ++ formatNote matcher.format))) := by
  simp only [describe, h, ClassMatcher.describe, formatNote, Text.ofString_append,
    Text.append_assoc]

theorem eq_of_describe_eq {matcher other : Matcher} {name name' : Text}
    (hclasses : matcher.classes = .exact name) (hclasses' : other.classes = .exact name')
    (hmethods : matcher.methods.IsGrammatical) (hmethods' : other.methods.IsGrammatical)
    (h : matcher.describe = other.describe) : matcher = other := by
  -- From left to right: the class name ends by itself, and the note at the end is cut off.
  rw [describe_exact hclasses, describe_exact hclasses', Text.append_right_inj] at h
  obtain ⟨rfl, hrest⟩ := Text.selfDelimiting_quote.append_inj h
  rw [Text.append_right_inj] at hrest
  obtain ⟨hdescribe, hformat⟩ := append_formatNote_inj hrest
  have hsame := MethodMatcher.eq_of_describe_eq hmethods hmethods' hdescribe
  obtain ⟨classes, methods, format, hspelled⟩ := matcher
  obtain ⟨classes', methods', format', hspelled'⟩ := other
  obtain rfl : classes = classes' := hclasses.trans hclasses'.symm
  obtain rfl : methods = methods' := hsame
  obtain rfl : format = format' := hformat
  rfl

end Matcher

/-! ## The last line of the log -/

namespace MatcherConfig

variable {config other : MatcherConfig} {matcher matcher' : Matcher}

/-- The matcher of a literal class that was loaded. -/
theorem exists_exact_of_load (hexact : config.classes.variant = "exact")
    (h : config.load.outcome = .ok matcher) :
    (∃ name, matcher.classes = .exact name) ∧ matcher.methods.IsGrammatical := by
  obtain ⟨hnone, hbuilds⟩ := ((refusedBy_load config).ok matcher).mp h
  have hclasses := hbuilds.classes
  have hmethods := hbuilds.methods
  refine ⟨?_, ?_⟩
  · cases hmatcher : matcher.classes with
    | exact name => exact ⟨name, rfl⟩
    | regex pattern =>
      rw [hmatcher] at hclasses
      have hregex : config.classes.variant = "regex" := hclasses.1
      rw [hexact] at hregex
      exact absurd hregex (by decide)
  · cases hmatcher : matcher.methods with
    | named | regex => trivial
    | signature name descriptor =>
      rw [hmatcher] at hmethods
      obtain ⟨hvariant, -, rfl⟩ := hmethods
      -- Had the descriptor been outside the grammar, that would have been a refusal.
      have hrefusal := hnone
        ((Refusal.noDescriptor (config.methods.descriptor.getD "")).onlyIf
          (config.methods.variant = "signature"))
        (by simp [refusals, MethodChoice.refusals])
      rw [Refusal.onlyIf_of hvariant] at hrefusal
      exact not_not.mp hrefusal

theorem getLast?_log_of_load (h : config.load.outcome = .ok matcher) :
    config.load.log.getLast? = some (.matcher matcher.describe) := by
  rw [load_eq_of_ok h]
  exact List.getLast?_concat

/-- Loaded matchers of literal classes are equal exactly if they are described alike, and so
    exactly if the last lines of their logs are the same. -/
theorem loaded_literals_are_told_apart (hexact : config.classes.variant = "exact")
    (hexact' : other.classes.variant = "exact") (h : config.load.outcome = .ok matcher)
    (h' : other.load.outcome = .ok matcher') :
    (matcher.describe = matcher'.describe ↔ matcher = matcher') ∧
      (config.load.log.getLast?.map LogEntry.line = other.load.log.getLast?.map LogEntry.line ↔
        matcher = matcher') := by
  obtain ⟨⟨name, hclasses⟩, hmethods⟩ := exists_exact_of_load hexact h
  obtain ⟨⟨name', hclasses'⟩, hmethods'⟩ := exists_exact_of_load hexact' h'
  have hdescribe : matcher.describe = matcher'.describe ↔ matcher = matcher' :=
    ⟨Matcher.eq_of_describe_eq hclasses hclasses' hmethods hmethods', congrArg Matcher.describe⟩
  have hline (description : Text) : (LogEntry.matcher description).line =
      "DEBUG invmatch._config: loaded matcher: " ++ description := rfl
  refine ⟨hdescribe, ?_⟩
  rw [getLast?_log_of_load h, getLast?_log_of_load h', ← hdescribe, Option.map_some,
    Option.map_some, hline, hline, Option.some.injEq, Text.append_right_inj]

/-- All methods of a name and one of them, in the same class. -/
theorem loaded_literals_are_told_apart_overload :
    ∃ matcher matcher',
      (load ⟨⟨"exact", "a.B"⟩, ⟨"name", "run", none⟩, .canonical⟩).outcome = .ok matcher ∧
      (load ⟨⟨"exact", "a.B"⟩, ⟨"signature", "run", some "()V"⟩, .canonical⟩).outcome
        = .ok matcher' ∧
      matcher.describe ≠ matcher'.describe := by
  have hnamed := (Matcher.agreesWithin_literal .canonical "a.B" "run" none).ok (by decide)
  have hsigned :=
    (Matcher.agreesWithin_signature .canonical "a.B" "run" ⟨[], .void⟩).ok (by decide)
  have hdescribe := (loaded_literals_are_told_apart rfl rfl hnamed hsigned).1
  refine ⟨_, _, hnamed, hsigned, ?_⟩
  intro hsame
  have hmethods := congrArg Matcher.methods (hdescribe.mp hsame)
  cases hmethods

end MatcherConfig
end CallSites
