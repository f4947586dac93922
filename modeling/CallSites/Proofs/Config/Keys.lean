/-
  CallSites.Proofs.Config.Keys

  A configuration is looked up by its keys. In which order its entries stand makes no difference,
  neither to what is read nor to a failure. An entry under a key that is not looked up makes none
  either, except to the keys that a failure lists; if its key is too long to be listed, the failure
  becomes an exception. Both hold for the mapping of a matcher and for those below it, and for any
  number of changes to them.
-/
import CallSites.Proofs.Config.Reading

namespace CallSites

/-! ## Looking up -/

namespace Value

variable {entries others : List (Value × Value)} {key value other : Value} {name : String}

/-- No two entries are under the same key. -/
def UniqueKeys (entries : List (Value × Value)) : Prop :=
  (entries.map Prod.fst).Pairwise fun key other => sameKey key other = false

theorem field?_cons_of_ne (h : key ≠ .str name) :
    field? ((key, value) :: entries) name = field? entries name := by
  cases key with
  | str text =>
    have hne : text ≠ .ofString name := fun heq => h (congrArg Value.str heq)
    rw [field?, if_neg hne]
  | _ => rfl

theorem field?_cons_self : field? ((.str name, value) :: entries) name = some value := by
  rw [field?, if_pos rfl]

theorem field?_append {before after : List (Value × Value)} :
    field? (before ++ after) name = (field? before name).or (field? after name) := by
  induction before with
  | nil => rfl
  | cons entry before ih =>
    obtain ⟨key, value⟩ := entry
    rw [List.cons_append]
    by_cases hkey : key = .str name
    · subst hkey
      rw [field?_cons_self, field?_cons_self, Option.some_or]
    · rw [field?_cons_of_ne hkey, field?_cons_of_ne hkey, ih]

theorem mem_of_field? (h : field? entries name = some value) : (.str name, value) ∈ entries := by
  induction entries with
  | nil => cases h
  | cons entry entries ih =>
    obtain ⟨key, found⟩ := entry
    by_cases hkey : key = .str name
    · subst hkey
      rw [field?_cons_self] at h
      cases h
      exact List.mem_cons_self
    · rw [field?_cons_of_ne hkey] at h
      exact List.mem_cons_of_mem _ (ih h)

theorem exists_field?_of_mem (h : (.str name, value) ∈ entries) :
    ∃ found, field? entries name = some found := by
  obtain ⟨before, after, rfl⟩ := List.append_of_mem h
  rw [field?_append, field?_cons_self]
  cases field? before name with
  | none => exact ⟨value, rfl⟩
  | some found => exact ⟨found, rfl⟩

theorem sameKey_str (name : String) : sameKey (.str name) (.str name) = true :=
  beq_self_eq_true (Text.ofString name)

theorem UniqueKeys.notMem (hunique : UniqueKeys ((.str name, value) :: entries)) (other : Value) :
    (.str name, other) ∉ entries := by
  intro hmem
  have hkey := List.mem_map_of_mem (f := Prod.fst) hmem
  have hne := (List.pairwise_cons.mp hunique).1 _ hkey
  rw [sameKey_str] at hne
  cases hne

theorem UniqueKeys.eq_of_mem (hunique : UniqueKeys entries) (h : (.str name, value) ∈ entries)
    (h' : (.str name, other) ∈ entries) : value = other := by
  induction entries with
  | nil => cases h
  | cons entry entries ih =>
    rcases List.mem_cons.mp h with rfl | hrest
    · rcases List.mem_cons.mp h' with heq | hrest'
      · exact (Prod.mk.inj heq).2.symm
      · exact absurd hrest' (hunique.notMem other)
    · rcases List.mem_cons.mp h' with rfl | hrest'
      · exact absurd hrest (hunique.notMem value)
      · exact ih (List.pairwise_cons.mp hunique).2 hrest hrest'

/-- Under unique keys every entry is found by its key, wherever it stands. -/
theorem UniqueKeys.field?_eq_some_iff (hunique : UniqueKeys entries) :
    field? entries name = some value ↔ (.str name, value) ∈ entries := by
  refine ⟨mem_of_field?, ?_⟩
  intro h
  obtain ⟨found, hfound⟩ := exists_field?_of_mem h
  rw [hfound, hunique.eq_of_mem (mem_of_field? hfound) h]

theorem UniqueKeys.field?_eq_of_perm (hunique : UniqueKeys entries) (h : entries.Perm others) :
    field? others name = field? entries name := by
  cases hfound : field? others name with
  | some found =>
    exact (hunique.field?_eq_some_iff.mpr (h.mem_iff.mpr (mem_of_field? hfound))).symm
  | none =>
    refine (Option.eq_none_iff_forall_ne_some.mpr ?_).symm
    intro value hvalue
    obtain ⟨found, hother⟩ := exists_field?_of_mem (h.mem_iff.mp (mem_of_field? hvalue))
    rw [hfound] at hother
    cases hother

end Value

namespace MatcherConfig

open Value

variable {entries others before after : Entries} {key value other : Value} {name : String}

/-- The text of a key that can be printed. -/
private def printedText (key : Value) : Text :=
  key.text.toOption.getD ""

theorem mapM_text_eq_ok {keys : List Value} {texts : List Text}
    (h : keys.mapM Value.text = .ok texts) : texts = keys.map printedText := by
  have htexts := mapM_eq_ok_iff.mp h
  clear h
  induction htexts with
  | nil => rfl
  | @cons key text _ _ hkey _ ih =>
    have hfirst : printedText key = text := by
      rw [printedText, hkey]
      rfl
    rw [List.map_cons, hfirst, ← ih]

theorem mergeSort_eq_of_perm {texts others : List Text} (h : texts.Perm others) :
    texts.mergeSort Text.isAtMost = others.mergeSort Text.isAtMost := by
  have hsorted (texts : List Text) :
      (texts.mergeSort Text.isAtMost).Pairwise fun first second => first.isAtMost second := by
    refine List.pairwise_mergeSort ?_ ?_ _
    · intro first second third h h'
      exact Text.isAtMost_trans h h'
    · intro first second
      simpa using Text.isAtMost_total first second
  -- Texts are ordered totally, so there is one way to put the same texts in order.
  have hperm : (texts.mergeSort Text.isAtMost).Perm (others.mergeSort Text.isAtMost) :=
    (List.mergeSort_perm _ _).trans (h.trans (List.mergeSort_perm _ _).symm)
  exact hperm.eq_of_pairwise (fun _ _ _ _ => Text.isAtMost_antisymm) (hsorted _) (hsorted _)

theorem HasLongKey.mono (h : HasLongKey entries) (hsub : entries ⊆ others) :
    HasLongKey others := by
  obtain ⟨entry, hmem, hlong⟩ := h
  exact ⟨entry, hsub hmem, hlong⟩

theorem keyTexts_eq_of_perm (h : entries.Perm others) : keyTexts entries = keyTexts others := by
  by_cases hlong : HasLongKey entries
  · rw [(printed_keyTexts _).eq_error_iff.mpr ⟨rfl, hlong⟩,
      (printed_keyTexts _).eq_error_iff.mpr ⟨rfl, hlong.mono h.subset⟩]
  · have hother : ¬ HasLongKey others := fun hother => hlong (hother.mono h.symm.subset)
    obtain ⟨texts, htexts⟩ := (printed_keyTexts entries).exists_ok hlong
    obtain ⟨texts', htexts'⟩ := (printed_keyTexts others).exists_ok hother
    obtain ⟨found, hfound, rfl⟩ := map_eq_ok_iff.mp htexts
    obtain ⟨found', hfound', rfl⟩ := map_eq_ok_iff.mp htexts'
    have hperm : found.Perm found' := by
      rw [mapM_text_eq_ok hfound, mapM_text_eq_ok hfound']
      exact (h.map _).map _
    rw [htexts, htexts', mergeSort_eq_of_perm hperm]

/-- The failure of a mapping that has none of the variants or several. -/
def keysError (part : String) (variants : List String) (entries : Entries) : MatcherError :=
  match keyTexts entries with
  | .ok keys => .config (.notOneVariant part variants keys)
  | .error exception => .raised exception

theorem printing_keyTexts_bind {α : Type} (part : String) (variants : List String)
    (entries : Entries) :
    (printing (keyTexts entries) >>= fun keys => fail (.notOneVariant part variants keys)) =
      (.error (keysError part variants entries) : Except MatcherError α) := by
  rw [keysError]
  cases keyTexts entries <;> rfl

/-! ## Mappings and changes to them -/

/-- The mappings that make up a configuration. -/
inductive Part where
  | matcher
  | cls
  | method
  | signature
  deriving DecidableEq, Repr

/-- The keys that are looked up in a mapping. -/
def Part.keys : Part → List String
  | .matcher => ["class_name_format", "allocations", "class", "method"]
  | .cls => classVariants
  | .method => methodVariants
  | .signature => ["name", "descriptor", "parameters", "returns"]

/-- The mapping that is expected under a key. -/
def Part.below? : Part → String → Option Part
  | .matcher, "class" => some .cls
  | .matcher, "method" => some .method
  | .method, "signature" => some .signature
  | _, _ => none

/-- One mapping is changed: the one of the part, or one below it. -/
inductive ChangesIn (change : Part → Entries → Entries → Prop) : Part → Value → Value → Prop where
  | here {part : Part} {entries others : Entries} :
      change part entries others → ChangesIn change part (.map entries) (.map others)
  | inside {part inner : Part} {key : String} {value other : Value} (before after : Entries) :
      part.below? key = some inner → ChangesIn change inner value other →
      ChangesIn change part (.map (before ++ (.str key, value) :: after))
        (.map (before ++ (.str key, other) :: after))

/-- The entries are put into another order. -/
structure Reorders (part : Part) (entries others : Entries) : Prop where
  perm : entries.Perm others
  unique : UniqueKeys entries

/-- An entry is added, under a key that is not looked up. -/
inductive AddsUnread (part : Part) : Entries → Entries → Prop where
  | mk (before after : Entries) {key : Value} (value : Value) :
      (∀ name ∈ part.keys, key ≠ .str name) →
      AddsUnread part (before ++ after) (before ++ (key, value) :: after)

/-- Two errors that are the same, or list other keys for the same fault. -/
inductive SameButKeys : MatcherError → MatcherError → Prop where
  | same (error : MatcherError) : SameButKeys error error
  | keys (part : String) (variants : List String) (keys others : List Text) :
      SameButKeys (.config (.notOneVariant part variants keys))
        (.config (.notOneVariant part variants others))

instance : Std.Refl SameButKeys where
  refl := .same

instance : IsTrans MatcherError SameButKeys where
  trans first second third h h' := by
    cases h with
    | same => exact h'
    | keys part variants keys others =>
      cases h' with
      | same => exact .keys part variants keys others
      | keys _ _ _ last => exact .keys part variants keys last

/-- Two errors that are the same but for the keys they list, or one whose keys can be listed and an
    exception since the other's cannot. -/
inductive SameWithMoreKeys : MatcherError → MatcherError → Prop where
  | listed {error other : MatcherError} : SameButKeys error other → SameWithMoreKeys error other
  | unlisted (part : String) (variants : List String) (keys : List Text) :
      SameWithMoreKeys (.config (.notOneVariant part variants keys)) (.raised Decimal.unwritable)

instance : Std.Refl SameWithMoreKeys where
  refl error := .listed (.same error)

instance : IsTrans MatcherError SameWithMoreKeys where
  trans first second third h h' := by
    cases h with
    | listed h =>
      cases h' with
      | listed h' => exact .listed (trans_of SameButKeys h h')
      | unlisted part variants keys => cases h <;> exact .unlisted part variants _
    | unlisted part variants keys =>
      cases h' with
      | listed h' =>
        cases h'
        exact .unlisted part variants keys

/-! ## Reading alike -/

/-- A part is read from two values to the same result, or from both not, with related errors. -/
def ReadAlike (failure : MatcherError → MatcherError → Prop) : Part → Value → Value → Prop
  | .matcher, value, other => Related Eq failure (ofValue value) (ofValue other)
  | .cls, value, other => Related Eq failure (readClass value) (readClass other)
  | .method, value, other => Related Eq failure (readMethod value) (readMethod other)
  | .signature, value, other => Related Eq failure (readSignature value) (readSignature other)

/-- The values under a key are the same, or are read alike where they are to be mappings. -/
def FoundAlike (failure : MatcherError → MatcherError → Prop) (part : Part) (key : String)
    (value other : Value) : Prop :=
  match part.below? key with
  | none => value = other
  | some inner => ReadAlike failure inner value other

/-- What is looked up in two mappings is alike, and the keys they have do not tell them apart. -/
structure LookedUpAlike (failure : MatcherError → MatcherError → Prop) (part : Part)
    (entries others : Entries) : Prop where
  fields : ∀ key ∈ part.keys,
    Option.Rel (FoundAlike failure part key) (field? entries key) (field? others key)
  keys : ∀ what variants,
    failure (keysError what variants entries) (keysError what variants others)

variable {failure : MatcherError → MatcherError → Prop} {part : Part}

theorem readAlike_refl [Std.Refl failure] (part : Part) (value : Value) :
    ReadAlike failure part value value := by
  cases part <;> exact .refl _

theorem readAlike_trans [IsTrans MatcherError failure] {first second third : Value}
    (h : ReadAlike failure part first second) (h' : ReadAlike failure part second third) :
    ReadAlike failure part first third := by
  cases part <;> exact Related.trans h h'

theorem foundAlike_refl [Std.Refl failure] (part : Part) (key : String) (value : Value) :
    FoundAlike failure part key value value := by
  unfold FoundAlike
  split
  · rfl
  · exact readAlike_refl _ value

/-- Mappings with the same fields are looked up alike, if their keys are told alike. -/
theorem LookedUpAlike.of_field?_eq [Std.Refl failure]
    (hfields : ∀ key ∈ part.keys, field? others key = field? entries key)
    (hkeys : ∀ what variants,
      failure (keysError what variants entries) (keysError what variants others)) :
    LookedUpAlike failure part entries others where
  fields key hkey := by
    rw [hfields key hkey]
    cases field? entries key with
    | none => exact .none
    | some value => exact .some (foundAlike_refl part key value)
  keys := hkeys

/-! ### Variants -/

/-- The variants that are present are the same, with alike values. -/
theorem forall₂_present {alike : String → Value → Value → Prop} {variants : List String}
    (h : ∀ variant ∈ variants,
      Option.Rel (alike variant) (field? entries variant) (field? others variant)) :
    List.Forall₂ (fun found other => found.1 = other.1 ∧ alike found.1 found.2 other.2)
      (variants.filterMap fun name => (field? entries name).map (name, ·))
      (variants.filterMap fun name => (field? others name).map (name, ·)) := by
  induction variants with
  | nil => exact .nil
  | cons variant variants ih =>
    have hrest := ih fun other hmem => h other (List.mem_cons_of_mem _ hmem)
    have hfirst := h variant List.mem_cons_self
    simp only [List.filterMap_cons]
    generalize field? entries variant = found at hfirst ⊢
    generalize field? others variant = found' at hfirst ⊢
    cases hfirst with
    | none => exact hrest
    | some hvalue => exact .cons ⟨rfl, hvalue⟩ hrest

theorem related_oneVariant {alike : String → Value → Value → Prop} {what : String}
    {variants : List String}
    (hfields : ∀ variant ∈ variants,
      Option.Rel (alike variant) (field? entries variant) (field? others variant))
    (hkeys : failure (keysError what variants entries) (keysError what variants others)) :
    Related (fun found other => found.1 = other.1 ∧ alike found.1 found.2 other.2) failure
      (oneVariant what variants (.map entries)) (oneVariant what variants (.map others)) := by
  have hpresent := forall₂_present hfields
  -- Both mappings have equally many of the variants. Unless it is one, only the keys are told.
  simp only [oneVariant, printing_keyTexts_bind]
  generalize variants.filterMap (fun name => (field? entries name).map (name, ·)) = found
    at hpresent ⊢
  generalize variants.filterMap (fun name => (field? others name).map (name, ·)) = found'
    at hpresent ⊢
  cases hpresent with
  | nil => exact .error hkeys
  | cons hfirst hrest =>
    cases hrest with
    | nil => exact .ok hfirst
    | cons => exact .error hkeys

theorem related_readClass [Std.Refl failure] (h : LookedUpAlike failure .cls entries others) :
    Related Eq failure (readClass (.map entries)) (readClass (.map others)) := by
  refine (related_oneVariant h.fields (h.keys _ _)).bind ?_
  rintro ⟨variant, value⟩ ⟨_, other⟩ ⟨rfl, hvalue⟩
  have hvalue : value = other := hvalue
  subst hvalue
  exact .refl _

theorem related_readMethod [Std.Refl failure] (h : LookedUpAlike failure .method entries others) :
    Related Eq failure (readMethod (.map entries)) (readMethod (.map others)) := by
  refine (related_oneVariant h.fields (h.keys _ _)).bind ?_
  rintro ⟨variant, value⟩ ⟨_, other⟩ ⟨rfl, hvalue⟩
  dsimp only at hvalue ⊢
  by_cases hsignature : variant = "signature"
  -- A signature is a mapping again, while the other variants are texts and have to be equal.
  · subst hsignature
    exact hvalue
  · have hbelow : Part.below? .method variant = none := by
      simp [Part.below?, hsignature]
    have hvalue : value = other := by
      simpa [FoundAlike, hbelow] using hvalue
    subst hvalue
    exact .refl _

/-! ### Mappings -/

/-- A key is in neither of the mappings, or in both with alike values. -/
theorem LookedUpAlike.cases (h : LookedUpAlike failure part entries others) {key : String}
    (hkey : key ∈ part.keys) :
    (field? entries key = none ∧ field? others key = none) ∨
      ∃ value other, field? entries key = some value ∧ field? others key = some other ∧
        FoundAlike failure part key value other := by
  have hfield := h.fields key hkey
  generalize field? entries key = found at hfield ⊢
  generalize field? others key = found' at hfield ⊢
  cases hfield with
  | none => exact .inl ⟨rfl, rfl⟩
  | some hvalue => exact .inr ⟨_, _, rfl, rfl, hvalue⟩

theorem LookedUpAlike.field?_eq (h : LookedUpAlike failure part entries others) {key : String}
    (hkey : key ∈ part.keys) (hbelow : part.below? key = none) :
    field? entries key = field? others key := by
  rcases h.cases hkey with ⟨hnone, hnone'⟩ | ⟨value, other, hsome, hsome', halike⟩
  · rw [hnone, hnone']
  · unfold FoundAlike at halike
    rw [hbelow] at halike
    rw [hsome, hsome', halike]

theorem LookedUpAlike.hasField_eq (h : LookedUpAlike failure part entries others) {key : String}
    (hkey : key ∈ part.keys) : hasField entries key = hasField others key := by
  rw [hasField, hasField]
  rcases h.cases hkey with ⟨hnone, hnone'⟩ | ⟨value, other, hsome, hsome', -⟩
  · rw [hnone, hnone']
  · rw [hsome, hsome']
    rfl

theorem readSignature_congr
    (h : ∀ key ∈ Part.signature.keys, field? entries key = field? others key) :
    readSignature (.map entries) = readSignature (.map others) := by
  have hname := h "name" (by simp [Part.keys])
  have hdescriptor := h "descriptor" (by simp [Part.keys])
  have hparameters := h "parameters" (by simp [Part.keys])
  have hreturns := h "returns" (by simp [Part.keys])
  have hread (name : Text) : readDescriptor name entries = readDescriptor name others := by
    unfold readDescriptor parameterNames? hasField
    rw [hdescriptor, hparameters, hreturns]
  simp only [readSignature, hname, hread]

theorem readAllocations_congr (hclass : hasField entries "class" = hasField others "class")
    (hmethod : hasField entries "method" = hasField others "method") (value : Value)
    (format : NameFormat) :
    readAllocations entries value format = readAllocations others value format := by
  rw [readAllocations, readAllocations, hclass, hmethod]

theorem related_ofValue [Std.Refl failure] (h : LookedUpAlike failure .matcher entries others) :
    Related Eq failure (ofValue (.map entries)) (ofValue (.map others)) := by
  -- In the order of the reader: the format, the shorthand, and then the class before the method.
  have hformat : field? entries "class_name_format" = field? others "class_name_format" :=
    h.field?_eq (by simp [Part.keys]) rfl
  have hallocations : field? entries "allocations" = field? others "allocations" :=
    h.field?_eq (by simp [Part.keys]) rfl
  simp only [ofValue]
  rw [hformat, hallocations]
  refine (Related.refl _).bind ?_
  rintro format _ rfl
  cases field? others "allocations" with
  | some value =>
    show Related Eq failure (readAllocations entries value format) _
    rw [readAllocations_congr (h.hasField_eq (by simp [Part.keys]))
      (h.hasField_eq (by simp [Part.keys]))]
    exact .refl _
  | none =>
    have hclass : "class" ∈ Part.matcher.keys := by simp [Part.keys]
    have hmethod : "method" ∈ Part.matcher.keys := by simp [Part.keys]
    rcases h.cases hclass with ⟨hcls, hcls'⟩ | ⟨cls, cls', hcls, hcls', hclasses⟩
    · rw [hcls, hcls']
      exact .refl _
    · rcases h.cases hmethod with ⟨hnone, hnone'⟩ | ⟨method, method', hsome, hsome', hmethods⟩
      · rw [hcls, hcls', hnone, hnone']
        exact .refl _
      · rw [hcls, hcls', hsome, hsome']
        refine Related.bind hclasses ?_
        rintro classes _ rfl
        refine Related.bind hmethods ?_
        rintro methods _ rfl
        exact .ok rfl

/-- A part is read alike from two mappings in which what it looks up is alike. -/
theorem LookedUpAlike.readAlike [Std.Refl failure] (h : LookedUpAlike failure part entries others) :
    ReadAlike failure part (.map entries) (.map others) := by
  cases part with
  | matcher => exact related_ofValue h
  | cls => exact related_readClass h
  | method => exact related_readMethod h
  | signature =>
    have hread : readSignature (.map entries) = readSignature (.map others) :=
      readSignature_congr fun key hkey => h.field?_eq hkey rfl
    show Related Eq failure _ _
    rw [hread]
    exact .refl _

/-! ## Changes -/

theorem lookedUpAlike_of_reorders [Std.Refl failure] (h : Reorders part entries others) :
    LookedUpAlike failure part entries others := by
  refine .of_field?_eq ?_ ?_
  · intro key _
    exact h.unique.field?_eq_of_perm h.perm
  · intro what variants
    have hkeys : keysError what variants entries = keysError what variants others := by
      rw [keysError, keysError, keyTexts_eq_of_perm h.perm]
    rw [hkeys]
    exact refl_of failure _

/-- With more keys a failure lists these too, if all of them can be printed. -/
theorem keysError_of_subset (hsub : entries ⊆ others) (what : String) (variants : List String) :
    SameWithMoreKeys (keysError what variants entries) (keysError what variants others) := by
  by_cases hlong : HasLongKey entries
  · have hother := hlong.mono hsub
    rw [keysError, keysError, (printed_keyTexts _).eq_error_iff.mpr ⟨rfl, hlong⟩,
      (printed_keyTexts _).eq_error_iff.mpr ⟨rfl, hother⟩]
    exact .listed (.same _)
  · obtain ⟨texts, htexts⟩ := (printed_keyTexts entries).exists_ok hlong
    have hothers := printed_keyTexts others
    rw [keysError, keysError, htexts]
    generalize keyTexts others = outcome at hothers ⊢
    cases hothers with
    | ok texts' _ => exact .listed (.keys what variants texts texts')
    | error _ => exact .unlisted what variants texts

theorem lookedUpAlike_of_addsUnread (h : AddsUnread part entries others) :
    LookedUpAlike SameWithMoreKeys part entries others := by
  obtain ⟨before, after, value, hunread⟩ := h
  refine .of_field?_eq ?_ (keysError_of_subset ?_)
  · intro key hkey
    rw [field?_append, field?_append, field?_cons_of_ne (hunread key hkey)]
  · intro entry hmem
    rcases List.mem_append.mp hmem with hbefore | hafter
    · exact List.mem_append_left _ hbefore
    · exact List.mem_append_right _ (List.mem_cons_of_mem _ hafter)

/-- A change further down is one of the value under a key. -/
theorem lookedUpAlike_inside [Std.Refl failure] {inner : Part} {key : String}
    (before after : Entries) (hbelow : part.below? key = some inner)
    (h : ReadAlike failure inner value other) :
    LookedUpAlike failure part (before ++ (.str key, value) :: after)
      (before ++ (.str key, other) :: after) where
  fields name hname := by
    -- Under the key the two values are found, unless an entry before them is under it too.
    rw [field?_append, field?_append]
    cases field? before name with
    | some found => exact .some (foundAlike_refl part name found)
    | none =>
      by_cases heq : key = name
      · subst heq
        rw [field?_cons_self, field?_cons_self]
        refine .some ?_
        unfold FoundAlike
        rw [hbelow]
        exact h
      · have hne : Value.str key ≠ .str name := by
          intro h
          exact heq (Text.ofString_injective (Value.str.inj h))
        rw [field?_cons_of_ne hne, field?_cons_of_ne hne]
        cases field? after name with
        | none => exact .none
        | some found => exact .some (foundAlike_refl part name found)
  keys what variants := by
    have hkeys : keysError what variants (before ++ (.str key, value) :: after) =
        keysError what variants (before ++ (.str key, other) :: after) := by
      simp only [keysError, keyTexts, List.map_append, List.map_cons]
    rw [hkeys]
    exact refl_of failure _

section Changes

variable {change : Part → Entries → Entries → Prop}

theorem readAlike_of_changesIn [Std.Refl failure]
    (hchange : ∀ {part entries others}, change part entries others →
      LookedUpAlike failure part entries others)
    {value other : Value} (h : ChangesIn change part value other) :
    ReadAlike failure part value other := by
  -- From the changed mapping outwards: each mapping around it still looks up alike values.
  induction h with
  | here hhere => exact (hchange hhere).readAlike
  | inside before after hbelow _ ih =>
    exact (lookedUpAlike_inside before after hbelow ih).readAlike

/-- After any number of changes a part is still read alike. -/
theorem readAlike_of_changes [Std.Refl failure] [IsTrans MatcherError failure]
    (hchange : ∀ {part entries others}, change part entries others →
      LookedUpAlike failure part entries others)
    {value other : Value} (h : Relation.ReflTransGen (ChangesIn change part) value other) :
    ReadAlike failure part value other := by
  induction h with
  | refl => exact readAlike_refl part value
  | tail _ hlast ih =>
    exact readAlike_trans ih (readAlike_of_changesIn hchange hlast)

end Changes

/-! ## Formats -/

/-- A value that is no format is quoted as it stands, so reordering it shows in the message. -/
theorem readFormat_of_shown {shown : String} (h : ∀ format : NameFormat, value ≠ .str format.word)
    (hshown : value.shown = .ok shown) :
    readFormat value = .error (.config (.unknownFormat shown)) := by
  cases hformat : readFormat value with
  | ok format => exact absurd (readFormat_eq_ok_iff.mp hformat) (h format)
  | error error =>
    rw [readFormat] at hformat
    split at hformat
    · cases hformat
    · rw [hshown] at hformat
      exact hformat.symm

theorem ofValue_of_unknownFormat {shown : String}
    (hfield : field? entries "class_name_format" = some value)
    (h : ∀ format : NameFormat, value ≠ .str format.word) (hshown : value.shown = .ok shown) :
    ofValue (.map entries) = .error (.config (.unknownFormat shown)) := by
  simp only [ofValue, hfield, Option.getD_some, readFormat_of_shown h hshown, error_bind]

/-! ## Keys only -/

/-- A configuration depends on what is under the keys that are looked up. Reordering its mapping, or
    any of those below it, changes neither the configuration nor the error; only a format that is
    none is quoted as it stands, if it can be printed. Entries under other keys do not change the
    configuration. An error stays the same except for the keys that it lists, unless an integer that
    would have to be quoted is too long to be written: then it is always the same exception. -/
theorem read_by_keys_only (value other : Value) :
    (Relation.ReflTransGen (ChangesIn Reorders .matcher) value other →
      ofValue other = ofValue value) ∧
    (∀ {entries : Entries}, field? entries "class_name_format" = some value →
      (∀ format : NameFormat, value ≠ .str format.word) →
      (∀ shown, value.shown = .ok shown →
        ofValue (.map entries) = .error (.config (.unknownFormat shown))) ∧
      (value.HoldsLongInteger → ofValue (.map entries) = .error (.raised Decimal.unwritable))) ∧
    (Relation.ReflTransGen (ChangesIn AddsUnread .matcher) value other →
      (∀ {config}, ofValue value = .ok config → ofValue other = .ok config) ∧
      ∀ {error}, ofValue value = .error error →
        ∃ error', ofValue other = .error error' ∧
          (¬ QuotesLongInteger other → SameButKeys error error') ∧
          (QuotesLongInteger other → error' = .raised Decimal.unwritable)) := by
  refine ⟨?_, ?_, ?_⟩
  · intro h
    have halike : ReadAlike Eq .matcher value other :=
      readAlike_of_changes lookedUpAlike_of_reorders h
    exact (Related.eq halike).symm
  · intro entries hfield hformat
    refine ⟨fun shown => ofValue_of_unknownFormat hfield hformat, fun hlong => ?_⟩
    exact ofValue_of_quotesLongInteger (.format hfield ⟨hformat, hlong⟩)
  · intro h
    have halike : ReadAlike SameWithMoreKeys .matcher value other :=
      readAlike_of_changes lookedUpAlike_of_addsUnread h
    refine ⟨Related.of_ok halike, fun herror => ?_⟩
    obtain ⟨error', herror', hsame⟩ := Related.of_error halike herror
    refine ⟨error', herror', fun hquoted => ?_, fun hquoted => ?_⟩
    · cases hsame with
      | listed hsame => exact hsame
      | unlisted => exact absurd (ofValue_eq_raised_iff.mp herror').2 hquoted
    · rw [ofValue_of_quotesLongInteger hquoted] at herror'
      exact (Except.error.inj herror').symm

/-! ## Numbers among the keys -/

/-- An entry for a class and a method test. -/
def testsOf (cls method : Entries) : Value :=
  .map [(.str "class", .map cls), (.str "method", .map method)]

/-- A number is no key that is looked up. -/
theorem changesIn_addsUnread_number (cls method : Entries) (key : Int) :
    ChangesIn AddsUnread .matcher (testsOf cls method)
      (testsOf (cls ++ [(.int key, .null)]) method) := by
  have hunread : ∀ name ∈ Part.cls.keys, Value.int key ≠ .str name := by
    intro name _ hkey
    cases hkey
  have hadds := AddsUnread.mk cls [] .null hunread
  rw [List.append_nil] at hadds
  exact .inside [] _ rfl (.here hadds)

theorem not_hasVariant_number (key : Int) (name : String) (found : Value) :
    ¬ HasVariant [(.int key, .null)] classVariants name found := by
  intro hvariant
  cases hvariant.field

theorem quotesLongInteger_number_iff (key : Int) (method : Entries) :
    QuotesLongInteger (testsOf [(.int key, .null)] method) ↔ Decimal.IsTooLong key := by
  refine ⟨?_, ?_⟩
  · intro hquoted
    cases hquoted with
    | format hfield => cases hfield
    | cls _ _ hclass hunlisted =>
      cases hclass
      obtain ⟨-, entry, hmem, hlong⟩ := hunlisted
      rw [List.mem_singleton.mp hmem] at hlong
      exact holdsLongInteger_int.mp hlong
    | method _ _ hclass hclasses =>
      cases hclass
      obtain ⟨hvariant⟩ := hclasses
      exact absurd hvariant (not_hasVariant_number key _ _)
  · intro hlong
    have hunlisted : HasUnlistedKeys classVariants [(.int key, .null)] :=
      ⟨not_hasVariant_number key, _, List.mem_singleton_self _, holdsLongInteger_int.mpr hlong⟩
    exact @QuotesLongInteger.cls _ _ _ .internal rfl rfl rfl (.mk hunlisted) rfl

/-- A signature with its entries turned round, below a method that is put before the class; a format
    that is a mapping; and a class test with a number among its keys. -/
theorem read_by_keys_only_signature :
    let name : Value × Value := (.str "name", .str "run")
    let returns : Value × Value := (.str "returns", .str "int")
    let cls : Value × Value := (.str "class", .map [(.str "exact", .str "a.B")])
    let method (parts : Entries) : Value × Value :=
      (.str "method", .map [(.str "signature", .map parts)])
    let named : Value × Value := (.str "exact", .str "a.B")
    let signature : Value × Value := (.str "signature", .map [name, returns])
    ofValue (.map [method [returns, name], cls]) = ofValue (.map [cls, method [name, returns]]) ∧
      ofValue (.map [(.str "class_name_format", .map [named])]) =
        .error (.config (.unknownFormat "\x7b'exact': 'a.B'\x7d")) ∧
      (∃ config, ofValue (testsOf [named] [signature]) = .ok config ∧
        ofValue (testsOf [named, (.int 1, .null)] [signature]) = .ok config) ∧
      ∃ error error', ofValue (testsOf [] [signature]) = .error error ∧
        ofValue (testsOf [(.int 1, .null)] [signature]) = .error error' ∧
        SameButKeys error error' := by
  intro name returns cls method named signature
  refine ⟨?_, ?_, ?_, ?_⟩
  · obtain ⟨hreorders, -, -⟩ := read_by_keys_only (.map [cls, method [name, returns]])
      (.map [method [returns, name], cls])
    refine hreorders (.tail (.single (.inside [cls] [] rfl (.inside [] [] rfl
      (.here ⟨.swap returns name [], ?_⟩)))) (.here ⟨.swap _ _ [], ?_⟩))
    · unfold UniqueKeys
      decide
    · unfold UniqueKeys
      decide
  · have hshown : (Value.map [named]).shown = .ok "\x7b'exact': 'a.B'\x7d" := by rfl
    have hunknown (format : NameFormat) : Value.map [named] ≠ .str format.word := by
      intro hvalue
      cases hvalue
    exact ((read_by_keys_only (.map [named]) .null).2.1 rfl hunknown).1 _ hshown
  · have hok : (ofValue (testsOf [named] [signature])).isOk = true := by
      decide +kernel
    obtain ⟨config, hconfig⟩ := exists_ok_of_isOk hok
    have hadd := changesIn_addsUnread_number [named] [signature] 1
    exact ⟨config, hconfig, ((read_by_keys_only _ _).2.2 (.single hadd)).1 hconfig⟩
  · have hfails : (ofValue (testsOf [] [signature])).isOk = false := by
      decide +kernel
    have hshort : ¬ Decimal.IsTooLong 1 := by decide +kernel
    obtain ⟨error, herror⟩ := exists_error_of_not_isOk hfails
    have hadd := changesIn_addsUnread_number [] [signature] 1
    obtain ⟨error', herror', hsame, -⟩ := ((read_by_keys_only _ _).2.2 (.single hadd)).2 herror
    rw [List.nil_append, quotesLongInteger_number_iff] at hsame
    exact ⟨error, error', herror, herror', hsame hshort⟩

/-- A class test without a variant has a fault. Under a key of 4301 digits an entry that is not
    looked up turns it into an exception. -/
theorem read_with_long_key :
    ChangesIn AddsUnread .matcher (testsOf [] [(.str "name", .str "run")])
      (testsOf [(.int (10 ^ Decimal.maxDigits), .null)] [(.str "name", .str "run")]) ∧
    ofValue (testsOf [] [(.str "name", .str "run")]) =
      .error (.config (.notOneVariant "class" ["exact", "regex"] [])) ∧
    ofValue (testsOf [(.int (10 ^ Decimal.maxDigits), .null)] [(.str "name", .str "run")]) =
      .error (.raised Decimal.unwritable) := by
  generalize hkey : (10 ^ Decimal.maxDigits : Int) = key
  have hlong : Decimal.IsTooLong key := hkey ▸ Decimal.isTooLong_pow
  have hquoted := (quotesLongInteger_number_iff key [(.str "name", .str "run")]).mpr hlong
  refine ⟨changesIn_addsUnread_number [] _ key, ?_, ofValue_of_quotesLongInteger hquoted⟩
  cbv

end MatcherConfig
end CallSites
