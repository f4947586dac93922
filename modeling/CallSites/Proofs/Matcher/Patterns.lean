/-
  CallSites.Proofs.Matcher.Patterns

  A matcher of patterns decides whole names. What a pattern denotes is read off its pieces, and a
  name is accepted exactly if all of its bytes make up a stretch that this matches.
-/
import CallSites.Proofs.Matcher.Literal
import CallSites.Proofs.Regex.Piece
import CallSites.Proofs.Regex.Variants

namespace CallSites.Matcher

open CallSites.Regex (Alike Denotes Lexes Piece Reordered Rank patternLanguage pieces)

theorem pattern_of_compilePattern {text : String} {pattern : Regex.Pattern}
    (h : compilePattern text = .ok pattern) : pattern.text = text :=
  (Text.ofString_injective (text_of_compilePattern h)).symm

/-- A matcher of two patterns accepts what both accept, whatever the descriptor. -/
theorem exists_forPatterns_accepts_iff {classText methodText : String}
    {classes methods : Regex.Pattern} (hclasses : compilePattern classText = .ok classes)
    (hmethods : compilePattern methodText = .ok methods) (format : NameFormat) :
    ∃ matcher, forPatterns classText methodText format = .ok matcher ∧
      ∀ (cls name : String) (descriptor : Text),
        matcher.accepts cls (some (name, descriptor)) = true ↔
          format.spell cls ∈ patternLanguage classText ∧
            name ∈ patternLanguage methodText := by
  refine ⟨_, forPatterns_of_compilePattern hclasses hmethods format, fun cls name descriptor => ?_⟩
  rw [accepts, Bool.and_eq_true, ← pattern_of_compilePattern hclasses,
    ← pattern_of_compilePattern hmethods, ← classes.isMatch_iff, ← methods.isMatch_iff]
  simp only [acceptsClass, ClassMatcher.accepts, acceptsMethod, MethodMatcher.accepts,
    NameFormat.normalize_ofString, Regex.Pattern.accepts_ofString]

/-- Matchers of patterns are predicates of whole names. Every pattern that compiles falls into
    lexemes, whose pieces denote one expression, with each piece read under the flags in force, and
    a class or method matcher accepts exactly the names in its language. A name matches
    alternatives only if it matches one of them as a whole; neither their order nor what
    repetitions prefer makes a difference. Two patterns make up a matcher, which accepts what both
    accept. -/
theorem patterns_decide_whole_names :
    (∀ {text : String} {pattern}, compilePattern text = .ok pattern →
      Lexes text.toList [] (pieces text.toList).1 ∧
      (∃ after regex, Denotes .alternatives {} (pieces text.toList).1 after regex ∧
        ∀ after' other, Denotes .alternatives {} (pieces text.toList).1 after' other →
          other = regex) ∧
      ∀ (name : String) (descriptor : Text),
        ((ClassMatcher.regex pattern).accepts name ↔ name ∈ patternLanguage text) ∧
        ((MethodMatcher.regex pattern).accepts name descriptor ↔ name ∈ patternLanguage text)) ∧
    (∀ {flags piece regex}, Piece.toRegex? flags piece = some regex →
      regex.Matches = piece.MatchesWith flags) ∧
    (∀ {text : String} {pattern left right middle after first second},
      compilePattern text = .ok pattern →
      (pieces text.toList).1 = left ++ .bar :: right → Denotes .alternatives {} left middle first →
      Denotes .alternatives middle right after second →
      ∀ name, pattern.isMatch name ↔ name ∈ first.language ∨ name ∈ second.language) ∧
    (∀ {pattern other : Regex.Pattern}, Reordered pattern.regex other.regex →
      ∀ name, pattern.isMatch name = other.isMatch name) ∧
    (∀ {pattern other : Regex.Pattern},
      List.Forall₂ Alike (pieces pattern.text.toList).1 (pieces other.text.toList).1 →
      ∀ name, pattern.isMatch name = other.isMatch name) ∧
    (∀ {classText methodText : String} {classes methods},
      compilePattern classText = .ok classes → compilePattern methodText = .ok methods →
      ∀ format, ∃ matcher, forPatterns classText methodText format = .ok matcher ∧
        ∀ (cls name : String) (descriptor : Text),
          matcher.accepts cls (some (name, descriptor)) ↔
            format.spell cls ∈ patternLanguage classText ∧
              name ∈ patternLanguage methodText) := by
  refine ⟨fun {text pattern} h => ?_, Regex.matches_of_toRegex?, ?_, ?_, ?_,
    exists_forPatterns_accepts_iff⟩
  · obtain rfl := pattern_of_compilePattern h
    obtain ⟨after, hdenotes⟩ := Regex.exists_denotes_of_parse pattern.parse_text
    refine ⟨Regex.lexes_of_parse pattern.parse_text,
      ⟨after, pattern.regex, hdenotes, fun _ _ hother => ?_⟩, fun name descriptor => ?_⟩
    · exact Regex.eq_of_denotes_of_parse pattern.parse_text hother
    · rw [ClassMatcher.accepts, MethodMatcher.accepts, pattern.accepts_ofString]
      exact ⟨pattern.isMatch_iff name, pattern.isMatch_iff name⟩
  · intro text pattern left right middle after first second h hpieces hleft hright name
    obtain rfl := pattern_of_compilePattern h
    exact Regex.Pattern.isMatch_bar_iff hpieces hleft hright name
  · exact fun h => Regex.Pattern.isMatch_congr h.language_eq
  · exact Regex.Pattern.isMatch_eq_of_alike

/-- The expression of one letter. -/
def letter (code : Nat) : Regex := .chars (.single code)

theorem denotes_letter (code : Nat) :
    Denotes .alternatives {} [.literal code] {} (.concat (letter code) .empty) :=
  .last (.part (.single rfl) (.nothing _))

/-- Two letters in either order, and repetitions of one that prefer many copies or few. A name of
    one of the letters is accepted, and one of both is not, although both its parts would be. -/
theorem patterns_decide_whole_names_letters :
    ∃ pattern swapped many few : Regex.Pattern,
      (compilePattern "a|b" = .ok pattern ∧ compilePattern "b|a" = .ok swapped ∧
        compilePattern "a*" = .ok many ∧ compilePattern "a*?" = .ok few) ∧
      Lexes "a|b".toList [] [.literal 97, .bar, .literal 98] ∧
      ((ClassMatcher.regex pattern).accepts "b" ∧ "b" ∈ patternLanguage "a|b") ∧
      (letter 97).Matches = (Piece.literal 97).MatchesWith {} ∧
      (¬ pattern.isMatch "ab" ∧ "ab" ∉ (Regex.concat (letter 97) .empty).language ∧
        "ab" ∉ (Regex.concat (letter 98) .empty).language) ∧
      (pattern.isMatch "b" ∧ swapped.isMatch "b") ∧
      (many.isMatch "aa" ∧ few.isMatch "aa") ∧
      ∃ matcher, forPatterns "a|b" "a*" .canonical = .ok matcher ∧
        matcher.accepts "b" (some ("aa", "()V")) ∧ ¬ matcher.accepts "ab" (some ("aa", "()V")) := by
  have hpattern : Regex.parse "a|b" =
      .ok (.either (.concat (letter 97) .empty) (.concat (letter 98) .empty)) := rfl
  have hswapped : Regex.parse "b|a" =
      .ok (.either (.concat (letter 98) .empty) (.concat (letter 97) .empty)) := rfl
  have hmany : Regex.parse "a*" = .ok (.concat (.times (letter 97) 0 none) .empty) := rfl
  have hfew : Regex.parse "a*?" = .ok (.concat (.times (letter 97) 0 none) .empty) := rfl
  have hpieces : (pieces "a*".toList).1 = [.literal 97, .times 0 none ['*']] := rfl
  have hpieces' : (pieces "a*?".toList).1 = [.literal 97, .times 0 none ['*', '?']] := rfl
  obtain ⟨hlanguage, hpiece, hbar, horder, halike, hmatcher⟩ := patterns_decide_whole_names
  have hone : Regex.isMatch (.either (.concat (letter 97) .empty) (.concat (letter 98) .empty))
      "b" = true := by
    cbv
  have hboth : Regex.isMatch (.either (.concat (letter 97) .empty) (.concat (letter 98) .empty))
      "ab" = false := by
    cbv
  have hcopies : Regex.isMatch (.concat (.times (letter 97) 0 none) .empty) "aa" = true := by
    cbv
  have hcompiled := compilePattern_of_parse hpattern
  have hnames (name : String) := ((hlanguage hcompiled).2.2 name "").1
  have hlazy : Regex.Pattern.isMatch ⟨"a*", _, hmany⟩ "aa" =
      Regex.Pattern.isMatch ⟨"a*?", _, hfew⟩ "aa" := by
    refine halike ?_ "aa"
    change List.Forall₂ Alike (pieces "a*".toList).1 (pieces "a*?".toList).1
    rw [hpieces, hpieces']
    exact .cons (.refl _) (.cons (.times 0 none _ _) .nil)
  refine ⟨_, _, _, _, ⟨hcompiled, compilePattern_of_parse hswapped,
    compilePattern_of_parse hmany, compilePattern_of_parse hfew⟩, (hlanguage hcompiled).1,
    ⟨hone, (hnames "b").mp hone⟩,
    hpiece rfl, ⟨Bool.not_eq_true _ ▸ hboth, ?_⟩, ⟨hone, ?_⟩,
    ⟨hcopies, hlazy.symm.trans hcopies⟩, ?_⟩
  · have hparts := hbar hcompiled rfl (denotes_letter 97) (denotes_letter 98) "ab"
    rw [← not_or, ← hparts]
    exact Bool.not_eq_true _ ▸ hboth
  · have hsame : Regex.Pattern.isMatch ⟨"a|b", _, hpattern⟩ "b" =
        Regex.Pattern.isMatch ⟨"b|a", _, hswapped⟩ "b" := horder (.swap _ _) "b"
    exact hsame.symm.trans hone
  · obtain ⟨matcher, hbuilt, haccepts⟩ := hmatcher hcompiled (compilePattern_of_parse hmany)
      .canonical
    have hcopies' := ((hlanguage (compilePattern_of_parse hmany)).2.2 "aa" "").1.mp hcopies
    have hdotless : NameFormat.canonical.spell "b" = "b" := by cbv
    have hdotless' : NameFormat.canonical.spell "ab" = "ab" := by cbv
    refine ⟨matcher, hbuilt, ?_, ?_⟩
    · rw [haccepts, hdotless]
      exact ⟨(hnames "b").mp hone, hcopies'⟩
    · rw [haccepts, hdotless']
      exact fun haccepted => Bool.false_ne_true (hboth.symm.trans ((hnames "ab").mpr haccepted.1))

end CallSites.Matcher
