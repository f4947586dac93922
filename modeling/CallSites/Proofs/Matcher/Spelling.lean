/-
  CallSites.Proofs.Matcher.Spelling

  The spelling of class names does not show in what a matcher answers. A name is put into the
  format of the matcher before the class test sees it, so that the test never meets the separator
  of the other format: a literal which has it is dead and is refused, and a pattern all of whose
  words have it accepts nothing. Selecting among classes that are named in other spellings gives
  the same methods, each under the name that was given.
-/
import CallSites.Proofs.Matcher.Acceptance
import CallSites.Proofs.Regex.Piece
import CallSites.Proofs.Regex.Variants

namespace CallSites

/-! ## Names in a format -/

namespace NameFormat

theorem other_separator_notMem_normalize (format : NameFormat) (name : Text) :
    .char format.other.separator ∉ (format.normalize name).toList :=
  normalize_eq_self_iff.mp (normalize_normalize format format name)

/-- The names that can be the outcome of spelling a name in a format are those that it leaves as
    they are. -/
theorem exists_normalize_eq_iff {format : NameFormat} {name : Text} :
    (∃ asked, format.normalize asked = name) ↔ format.normalize name = name := by
  refine ⟨?_, fun h => ⟨name, h⟩⟩
  rintro ⟨asked, rfl⟩
  exact normalize_normalize format format asked

end NameFormat

namespace Matcher

/-! ## Questions about classes -/

/-- Only the spelling in the format of the matcher counts. -/
theorem acceptsClass_eq_of_toInternalName_eq (matcher : Matcher) {name other : Text}
    (h : toInternalName name = toInternalName other) :
    matcher.acceptsClass name = matcher.acceptsClass other := by
  have hspelled : matcher.format.normalize name = matcher.format.normalize other :=
    NameFormat.normalize_eq_normalize .internal matcher.format h
  rw [acceptsClass, acceptsClass, hspelled]

/-- A pattern all of whose words have the separator of the other format accepts no class. -/
theorem acceptsClass_eq_false_of_separator {matcher : Matcher} {pattern : Regex.Pattern}
    (hpattern : matcher.classes = .regex pattern)
    (hwords : ∀ word ∈ Regex.patternLanguage pattern.text,
      matcher.format.other.separator ∈ word.toList) (name : Text) :
    matcher.acceptsClass name = false := by
  rw [acceptsClass, hpattern, ClassMatcher.accepts, ← Bool.not_eq_true, Regex.Pattern.accepts_iff]
  rintro ⟨word, hword, hmatch⟩
  apply NameFormat.other_separator_notMem_normalize matcher.format name
  rw [hword, Text.toList_ofString]
  exact List.mem_map_of_mem (hwords word ((pattern.isMatch_iff word).mp hmatch))

end Matcher

/-! ## Selections among respelled classes -/

/-- A class by another spelling of its name. -/
structure LoadedClass.Respelled (cls other : LoadedClass) : Prop where
  name : toInternalName cls.name = toInternalName other.name
  methods : cls.methods = other.methods

/-- The sites of some methods of a class, which has the name that it is given by. -/
def LoadedClass.sitesOf (cls : LoadedClass) (methods : List (String × String)) : List CallSite :=
  methods.map fun method => ⟨cls.name, method.1, method.2⟩

/-- The sites of some methods of each class, class by class. -/
def sitesOfEach (classes : List LoadedClass) (methods : List (List (String × String))) :
    List CallSite :=
  (classes.zipWith LoadedClass.sitesOf methods).flatten

/-- The methods at the sites are those that are listed for the classes. -/
theorem map_sitesOfEach {classes : List LoadedClass} {methods : List (List (String × String))}
    (h : methods.length = classes.length) :
    (sitesOfEach classes methods).map (fun site => (site.method, site.descriptor)) =
      methods.flatten := by
  -- Along the classes, of which each takes the first list that is left.
  induction classes generalizing methods with
  | nil =>
    rw [List.length_nil, List.length_eq_zero_iff] at h
    rw [h]
    rfl
  | cons cls rest ih =>
    cases methods with
    | nil => cases h
    | cons first others =>
      have hfirst : (cls.sitesOf first).map (fun site => (site.method, site.descriptor)) =
          first := by
        rw [LoadedClass.sitesOf, List.map_map]
        exact List.map_id first
      have hrest := ih (Nat.succ.inj h)
      rw [sitesOfEach] at hrest
      rw [sitesOfEach, List.zipWith_cons_cons, List.flatten_cons, List.map_append, hfirst, hrest,
        List.flatten_cons]

namespace Matcher

/-- The methods of a class that a matcher counts. -/
def counted (matcher : Matcher) (cls : LoadedClass) : List (String × String) :=
  if matcher.acceptsClass cls.name then
    cls.methods.filter fun method => matcher.acceptsMethod method.1 method.2
  else []

theorem counted_sublist (matcher : Matcher) (cls : LoadedClass) :
    (matcher.counted cls).Sublist cls.methods := by
  rw [counted]
  split
  · exact List.filter_sublist
  · exact List.nil_sublist _

theorem counted_eq_of_respelled (matcher : Matcher) {cls other : LoadedClass}
    (h : cls.Respelled other) : matcher.counted cls = matcher.counted other := by
  rw [counted, counted, matcher.acceptsClass_eq_of_toInternalName_eq h.name, h.methods]

theorem filter_sites_eq_sitesOf (matcher : Matcher) (cls : LoadedClass) :
    cls.sites.filter matcher.acceptsSite = cls.sitesOf (matcher.counted cls) := by
  rw [filter_sites, counted]
  split
  · exact List.filter_map
  · rfl

/-- A selection goes class by class. -/
theorem select_eq_sitesOfEach (matcher : Matcher) (classes : List LoadedClass) :
    matcher.select classes = sitesOfEach classes (classes.map matcher.counted) := by
  rw [select_eq_filter]
  induction classes with
  | nil => rfl
  | cons cls rest ih =>
    rw [List.flatMap_cons, List.filter_append, ih, filter_sites_eq_sitesOf]
    rfl

theorem map_counted_eq_of_respelled (matcher : Matcher) {first second : List LoadedClass}
    (h : List.Forall₂ LoadedClass.Respelled first second) :
    first.map matcher.counted = second.map matcher.counted := by
  induction h with
  | nil => rfl
  | cons hcls _ ih => rw [List.map_cons, List.map_cons, ih, matcher.counted_eq_of_respelled hcls]

theorem forall₂_counted_sublist (matcher : Matcher) (classes : List LoadedClass) :
    List.Forall₂ (fun methods cls => methods.Sublist cls.methods)
      (classes.map matcher.counted) classes := by
  rw [List.forall₂_map_left_iff, List.forall₂_same]
  exact fun cls _ => matcher.counted_sublist cls

/-- A matcher answers for a class whichever way its name is spelled. Its class test is asked for a
    name without the separator of the other format, so that a pattern all of whose words have this
    separator accepts no class. Selections among classes and among the same classes in other
    spellings count the same methods of each class, under the name that is given to it. -/
theorem answers_regardless_of_spelling :
    (∀ (matcher : Matcher) (name other : Text), toInternalName name = toInternalName other →
      matcher.acceptsClass name = matcher.acceptsClass other) ∧
    (∀ (matcher : Matcher) (name : Text),
      matcher.acceptsClass name = matcher.classes.accepts (matcher.format.normalize name) ∧
        .char matcher.format.other.separator ∉ (matcher.format.normalize name).toList) ∧
    (∀ (matcher : Matcher) (pattern : Regex.Pattern), matcher.classes = .regex pattern →
      (∀ word ∈ Regex.patternLanguage pattern.text,
        matcher.format.other.separator ∈ word.toList) →
      ∀ name, matcher.acceptsClass name = false) ∧
    (∀ (matcher : Matcher) (first second : List LoadedClass),
      List.Forall₂ LoadedClass.Respelled first second →
      ∃ methods, List.Forall₂ (fun methods cls => methods.Sublist cls.methods) methods first ∧
        matcher.select first = sitesOfEach first methods ∧
        matcher.select second = sitesOfEach second methods ∧
        (matcher.select first).map (fun site => (site.method, site.descriptor)) =
          (matcher.select second).map (fun site => (site.method, site.descriptor))) := by
  refine ⟨?_, ?_, ?_, ?_⟩
  · intro matcher name other h
    exact matcher.acceptsClass_eq_of_toInternalName_eq h
  · intro matcher name
    exact ⟨rfl, NameFormat.other_separator_notMem_normalize matcher.format name⟩
  · intro matcher pattern hpattern hwords name
    exact acceptsClass_eq_false_of_separator hpattern hwords name
  · intro matcher first second h
    -- Both runs count the same methods, so one list of them serves for both.
    have hcounted := matcher.map_counted_eq_of_respelled h
    have hfirst := matcher.select_eq_sitesOfEach first
    have hsecond := matcher.select_eq_sitesOfEach second
    rw [← hcounted] at hsecond
    refine ⟨first.map matcher.counted, matcher.forall₂_counted_sublist first, hfirst, hsecond, ?_⟩
    rw [hfirst, hsecond, map_sitesOfEach (by simp), map_sitesOfEach (by simp [h.length_eq])]

theorem toList_of_mem_language_single {c : Char} {word : String}
    (h : word ∈ (Regex.concat (.chars (.single c.toNat)) .empty).language) :
    word.toList = [c] := by
  obtain ⟨_, _, htext, ⟨d, hd, rfl⟩, rfl⟩ := h
  have hdc : d = c := Char.toNat_inj.mp (Regex.CharSet.has_single.mp hd)
  rw [hdc] at htext
  exact Regex.encode_injective htext

/-- A pattern of one dot under slashes, which accepts nothing, and a literal that accepts a class in
    two spellings. -/
theorem answers_regardless_of_spelling_dot :
    ∃ (dotted named : Matcher) (pattern : Regex.Pattern),
      pattern.text = "\\." ∧
      dotted.classes = .regex pattern ∧ dotted.format = .internal ∧
      (∀ word ∈ Regex.patternLanguage pattern.text,
        dotted.format.other.separator ∈ word.toList) ∧
      dotted.acceptsClass "." = false ∧
      named = literal "a.b.C" (.named "run") .canonical ∧
      named.acceptsClass "a.b/C" = true ∧
      named.acceptsClass "a.b/C" = named.acceptsClass "a/b.C" ∧
      (named.select [⟨"a.b/C", [("run", "()V")]⟩]).map
          (fun site => (site.method, site.descriptor)) =
        (named.select [⟨"a/b.C", [("run", "()V")]⟩]).map
          (fun site => (site.method, site.descriptor)) := by
  have hparse : Regex.parse "\\." = .ok (.concat (.chars (.single '.'.toNat)) .empty) := by cbv
  have hwords : ∀ word ∈ Regex.patternLanguage "\\.",
      NameFormat.internal.other.separator ∈ word.toList := by
    intro word hword
    rw [Regex.patternLanguage_eq hparse] at hword
    rw [toList_of_mem_language_single hword]
    exact List.mem_singleton_self '.'
  obtain ⟨pattern, htext⟩ : ∃ pattern : Regex.Pattern, pattern.text = "\\." :=
    ⟨⟨_, _, hparse⟩, rfl⟩
  rw [← htext] at hwords
  have hnames : toInternalName "a.b/C" = toInternalName "a/b.C" := by cbv
  obtain ⟨hblind, -, hdead, hselect⟩ := answers_regardless_of_spelling
  obtain ⟨-, -, -, -, hmethods⟩ := hselect
    (literal "a.b.C" (.named "run") .canonical) [⟨"a.b/C", [("run", "()V")]⟩]
    [⟨"a/b.C", [("run", "()V")]⟩] (.cons ⟨hnames, rfl⟩ .nil)
  have haccepts : (literal "a.b.C" (.named "run") .canonical).acceptsClass "a.b/C" = true := by
    decide +kernel
  exact ⟨⟨.regex pattern, .named "run", .internal, trivial⟩, _, pattern, htext, rfl, rfl, hwords,
    hdead _ pattern rfl hwords ".", rfl, haccepts, hblind _ _ _ hnames, hmethods⟩

/-! ## Dead literals -/

theorem ofParts_exact_of_spelled {name : Text} {format : NameFormat}
    (h : format.normalize name = name) (methods : MethodMatcher) :
    ofParts (.exact name) methods format = .ok ⟨.exact name, methods, format, h⟩ :=
  dif_pos h

theorem ofParts_exact_of_misspelled {name : Text} {format : NameFormat}
    (h : format.normalize name ≠ name) (methods : MethodMatcher) :
    ofParts (.exact name) methods format = .error (.misspelledClass name format) :=
  dif_neg h

/-- A literal class name is refused exactly if no name whatsoever is spelled like it in the format
    of the matcher. If it is not refused, its matcher accepts exactly the spellings of the name.
    A pattern is never refused. -/
theorem dead_literals_are_refused :
    (∀ (name : Text) (methods : MethodMatcher) (format : NameFormat),
      (ofParts (.exact name) methods format = .error (.misspelledClass name format) ↔
        ¬ ∃ asked, format.normalize asked = name) ∧
      ((∃ asked, format.normalize asked = name) →
        ∃ matcher, ofParts (.exact name) methods format = .ok matcher)) ∧
    (∀ (name : Text) (methods : MethodMatcher) (format : NameFormat) (matcher : Matcher),
      ofParts (.exact name) methods format = .ok matcher →
      (∀ asked, matcher.acceptsClass asked = true ↔
        toInternalName asked = toInternalName name) ∧
      matcher.acceptsClass name = true ∧ matcher.acceptsClass (toInternalName name) = true ∧
      matcher.acceptsClass (toCanonicalName name) = true) ∧
    (∀ (pattern : Regex.Pattern) (methods : MethodMatcher) (format : NameFormat),
      ∃ matcher, ofParts (.regex pattern) methods format = .ok matcher) := by
  refine ⟨?_, ?_, ?_⟩
  · intro name methods format
    rw [NameFormat.exists_normalize_eq_iff]
    refine ⟨⟨?_, ?_⟩, ?_⟩
    · intro hrefused hspelled
      rw [ofParts_exact_of_spelled hspelled] at hrefused
      cases hrefused
    · intro hmisspelled
      exact ofParts_exact_of_misspelled hmisspelled methods
    · intro hspelled
      exact ⟨_, ofParts_exact_of_spelled hspelled methods⟩
  · intro name methods format matcher hbuilt
    have hasked : ∀ asked, matcher.acceptsClass asked = true ↔
        toInternalName asked = toInternalName name :=
      fun asked => acceptsClass_iff_of_exact (parts_of_ofParts hbuilt).1
    have hslashed : toInternalName (toInternalName name) = toInternalName name :=
      NameFormat.normalize_normalize .internal .internal name
    have hdotted : toInternalName (toCanonicalName name) = toInternalName name :=
      NameFormat.normalize_normalize .internal .canonical name
    exact ⟨hasked, (hasked _).mpr rfl, (hasked _).mpr hslashed, (hasked _).mpr hdotted⟩
  · intro pattern methods format
    exact ⟨_, rfl⟩

/-- With slashes a name is accepted in all its spellings, with dots it is refused. -/
theorem dead_literals_are_refused_slashes :
    (∃ matcher, ofParts (.exact "a/B") (.named "run") .internal = .ok matcher ∧
      matcher.acceptsClass "a.B" = true ∧ matcher.acceptsClass "a.C" = false) ∧
    ofParts (.exact "a/B") (.named "run") .canonical =
      .error (.misspelledClass "a/B" .canonical) := by
  have hslashes : NameFormat.internal.normalize "a/B" = "a/B" := by cbv
  have hdots : ¬ NameFormat.canonical.normalize "a/B" = "a/B" := by decide +kernel
  obtain ⟨hrefused, hasked, -⟩ := dead_literals_are_refused
  obtain ⟨matcher, hbuilt⟩ := (hrefused "a/B" (.named "run") .internal).2 ⟨_, hslashes⟩
  have haccepts := (hasked _ _ _ matcher hbuilt).1
  refine ⟨⟨matcher, hbuilt, (haccepts "a.B").mpr (by cbv), ?_⟩, ?_⟩
  · rw [← Bool.not_eq_true, haccepts]
    decide +kernel
  · rw [(hrefused "a/B" (.named "run") .canonical).1, NameFormat.exists_normalize_eq_iff]
    exact hdots

end Matcher
end CallSites
