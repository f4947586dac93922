/-
  CallSites.Proofs.Config.Sets

  Two processes can go through the same set in different orders. To what is loaded from a document,
  and to what is logged for that, this makes no difference; and to an error only if it quotes the
  set. That happens in one place, where a value stands for a format and is none.
-/
import CallSites.Proofs.Config.Keys
import CallSites.Proofs.Config.Raised

namespace CallSites

/-! ## The order of sets -/

namespace Value

mutual

/-- The values differ at most in the order of the sets in them. A key holds no set. -/
inductive Alike : Value → Value → Prop where
  | refl (value : Value) : Alike value value
  | list {items others : List Value} :
      AlikeItems items others → Alike (.list items) (.list others)
  | map {entries others : List (Value × Value)} :
      AlikeEntries entries others → Alike (.map entries) (.map others)
  | pair {key value other : Value} : Alike value other → Alike (.pair key value) (.pair key other)
  | set {items others : List Value} : items.Perm others → Alike (.set items) (.set others)

inductive AlikeItems : List Value → List Value → Prop where
  | nil : AlikeItems [] []
  | cons {item other : Value} {items others : List Value} :
      Alike item other → AlikeItems items others → AlikeItems (item :: items) (other :: others)

inductive AlikeEntries : List (Value × Value) → List (Value × Value) → Prop where
  | nil : AlikeEntries [] []
  | cons {key value other : Value} {entries others : List (Value × Value)} :
      Alike value other → AlikeEntries entries others →
      AlikeEntries ((key, value) :: entries) ((key, other) :: others)

end

theorem perm_integersOfItems {items others : List Value} (h : items.Perm others) :
    (integersOfItems items).Perm (integersOfItems others) := by
  induction h with
  | nil => exact .refl _
  | cons item _ ih => exact ih.append_left _
  | swap first second rest =>
    simp only [integersOfItems, ← List.append_assoc]
    exact List.perm_append_comm.append_right _
  | trans _ _ ih ih' => exact ih.trans ih'

mutual

/-- Both values hold the same integers. -/
theorem Alike.perm_integers : ∀ {value other : Value}, Alike value other →
    value.integers.Perm other.integers
  | _, _, .refl _ => .refl _
  | _, _, .list h => h.perm_integers
  | _, _, .map h => h.perm_integers
  | _, _, .pair h => h.perm_integers.append_left _
  | _, _, .set h => perm_integersOfItems h

theorem AlikeItems.perm_integers : ∀ {items others : List Value}, AlikeItems items others →
    (integersOfItems items).Perm (integersOfItems others)
  | _, _, .nil => .refl _
  | _, _, .cons h hrest => h.perm_integers.append hrest.perm_integers

theorem AlikeEntries.perm_integers : ∀ {entries others : List (Value × Value)},
    AlikeEntries entries others →
    (integersOfEntries entries).Perm (integersOfEntries others)
  | _, _, .nil => .refl _
  | _, _, .cons h hrest => (h.perm_integers.append_left _).append hrest.perm_integers

end

variable {value other : Value} {items others : List Value}

theorem Alike.holdsLongInteger_iff (h : Alike value other) :
    value.HoldsLongInteger ↔ other.HoldsLongInteger := by
  have hmem (n : Int) : n ∈ value.integers ↔ n ∈ other.integers := h.perm_integers.mem_iff
  simp only [HoldsLongInteger, AnyTooLong, hmem]

/-- Texts hold no sets. -/
theorem Alike.eq_str_iff (h : Alike value other) {text : Text} :
    value = .str text ↔ other = .str text := by
  cases h <;> simp

theorem AlikeItems.forall₂ : ∀ {items others : List Value}, AlikeItems items others →
    List.Forall₂ Alike items others
  | _, _, .nil => .nil
  | _, _, .cons h hrest => .cons h hrest.forall₂

theorem AlikeEntries.forall₂ : ∀ {entries others : List (Value × Value)},
    AlikeEntries entries others →
    List.Forall₂ (fun entry other => entry.1 = other.1 ∧ Alike entry.2 other.2) entries others
  | _, _, .nil => .nil
  | _, _, .cons h hrest => .cons ⟨rfl, h⟩ hrest.forall₂

/-- Under every key both mappings have alike values, or none. -/
theorem AlikeEntries.field? {entries others : List (Value × Value)}
    (h : AlikeEntries entries others)
    (name : String) : Option.Rel Alike (field? entries name) (field? others name) := by
  have hentries := h.forall₂
  clear h
  induction hentries with
  | nil => exact .none
  | @cons entry other _ _ hentry _ ih =>
    obtain ⟨key, value⟩ := entry
    obtain ⟨_, other⟩ := other
    obtain ⟨rfl, halike⟩ : key = _ ∧ Alike value other := hentry
    by_cases hkey : key = .str name
    · subst hkey
      rw [field?_cons_self, field?_cons_self]
      exact .some halike
    · rw [field?_cons_of_ne hkey, field?_cons_of_ne hkey]
      exact ih

theorem AlikeEntries.keys_eq {entries others : List (Value × Value)}
    (h : AlikeEntries entries others) : entries.map Prod.fst = others.map Prod.fst := by
  have hentries := h.forall₂
  clear h
  induction hentries with
  | nil => rfl
  | cons hentry _ ih => exact congrArg₂ List.cons hentry.1 ih

theorem AlikeEntries.hasField_eq {entries others : List (Value × Value)}
    (h : AlikeEntries entries others) (name : String) :
    hasField entries name = hasField others name := by
  have hfield := h.field? name
  rw [hasField, hasField]
  generalize Value.field? entries name = found at hfield ⊢
  generalize Value.field? others name = found' at hfield ⊢
  cases hfield <;> rfl

/-- What stands for a value that is missing is alike in both. -/
theorem alike_getD {found found' : Option Value} (h : Option.Rel Alike found found')
    (value : Value) : Alike (found.getD value) (found'.getD value) := by
  cases h with
  | none => exact .refl value
  | some halike => exact halike

end Value

namespace MatcherConfig

open Value

/-! ## Reading -/

/-- The texts show two values that differ in the order of sets only. -/
def ShownAlike (shown shown' : String) : Prop :=
  ∃ value other : Value, Alike value other ∧ value.shown = .ok shown ∧ other.shown = .ok shown'

/-- Two errors that are the same, except for a value that is no format and is quoted in them. -/
inductive SameButQuoted : MatcherError → MatcherError → Prop where
  | same (error : MatcherError) : SameButQuoted error error
  | quoted {shown shown' : String} :
      ShownAlike shown shown' →
      SameButQuoted (.config (.unknownFormat shown)) (.config (.unknownFormat shown'))

instance : Std.Refl SameButQuoted where
  refl := .same

variable {value other : Value} {items items' : List Value} {entries others : Entries}

theorem related_readFormat (h : Alike value other) :
    Related Eq SameButQuoted (readFormat value) (readFormat other) := by
  by_cases hformat : ∃ format : NameFormat, value = .str format.word
  · obtain ⟨format, hvalue⟩ := hformat
    rw [readFormat_eq_ok_iff.mpr hvalue, readFormat_eq_ok_iff.mpr (h.eq_str_iff.mp hvalue)]
    exact .ok rfl
  · have hnone (format : NameFormat) : value ≠ .str format.word :=
      fun hvalue => hformat ⟨format, hvalue⟩
    have hnone' (format : NameFormat) : other ≠ .str format.word :=
      fun hother => hnone format (h.eq_str_iff.mpr hother)
    by_cases hlong : value.HoldsLongInteger
    · have hlong' := h.holdsLongInteger_iff.mp hlong
      rw [readFormat_of_isUnquotedFormat ⟨hnone, hlong⟩,
        readFormat_of_isUnquotedFormat ⟨hnone', hlong'⟩]
      exact .error (.same _)
    · have hlong' : ¬ other.HoldsLongInteger :=
        fun hother => hlong (h.holdsLongInteger_iff.mpr hother)
      obtain ⟨shown, hshown⟩ := (printed_shown value).exists_ok hlong
      obtain ⟨shown', hshown'⟩ := (printed_shown other).exists_ok hlong'
      rw [readFormat_of_shown hnone hshown, readFormat_of_shown hnone' hshown']
      exact .error (.quoted ⟨value, other, h, hshown, hshown'⟩)

theorem text_congr (h : Alike value other) (what : String) : text what value = text what other := by
  cases h <;> rfl

theorem texts?_congr (h : AlikeItems items items') : texts? items = texts? items' := by
  have hitems := h.forall₂
  clear h
  induction hitems with
  | nil => rfl
  | @cons item _ _ _ hitem _ ih =>
    cases hitem with
    | refl => cases item <;> simp only [texts?, ih]
    | _ => rfl

theorem parameterNames?_congr (h : AlikeEntries entries others) :
    parameterNames? entries = parameterNames? others := by
  have hnames := alike_getD (h.field? "parameters") (.list [])
  rw [parameterNames?, parameterNames?]
  generalize (Value.field? entries "parameters").getD (.list []) = found at hnames ⊢
  generalize (Value.field? others "parameters").getD (.list []) = found' at hnames ⊢
  cases hnames with
  | refl => rfl
  | list hitems => exact texts?_congr hitems
  | _ => rfl

theorem readDescriptor_congr (h : AlikeEntries entries others) (name : Text) :
    readDescriptor name entries = readDescriptor name others := by
  have hdescriptor := h.field? "descriptor"
  have hresult := text_congr (alike_getD (h.field? "returns") (.str voidWord))
    "method signature returns"
  rw [readDescriptor, readDescriptor, h.hasField_eq, h.hasField_eq, parameterNames?_congr h,
    hresult]
  generalize Value.field? entries "descriptor" = found at hdescriptor ⊢
  generalize Value.field? others "descriptor" = found' at hdescriptor ⊢
  cases hdescriptor with
  | none => rfl
  | some hvalue => simp only [text_congr hvalue]

theorem readSignature_alike (h : Alike value other) :
    readSignature value = readSignature other := by
  cases h with
  | refl => rfl
  | map hentries =>
    have hname := text_congr (alike_getD (hentries.field? "name") .null) "method signature name"
    rw [readSignature, readSignature, hname]
    simp only [readDescriptor_congr hentries]
  | _ => rfl

/-- Variants are told by keys, and keys hold no sets. -/
theorem oneVariant_alike (h : Alike value other) (what : String) (variants : List String) :
    Related (fun found found' => found.1 = found'.1 ∧ Alike found.2 found'.2) Eq
      (oneVariant what variants value) (oneVariant what variants other) := by
  cases h with
  | refl =>
    cases oneVariant what variants value with
    | error error => exact .error rfl
    | ok found => exact .ok ⟨rfl, .refl _⟩
  | map hentries =>
    refine related_oneVariant (fun variant _ => hentries.field? variant) ?_
    rw [keysError, keysError, keyTexts, keyTexts, hentries.keys_eq]
  | _ => exact .error rfl

theorem readClass_congr (h : Alike value other) : readClass value = readClass other := by
  refine Related.eq ((oneVariant_alike h _ _).bind ?_)
  rintro ⟨variant, found⟩ ⟨_, found'⟩ ⟨rfl, hfound⟩
  have htext := text_congr hfound ("class " ++ variant)
  dsimp only at htext ⊢
  rw [htext]
  exact .refl _

theorem readMethod_congr (h : Alike value other) : readMethod value = readMethod other := by
  refine Related.eq ((oneVariant_alike h _ _).bind ?_)
  rintro ⟨variant, found⟩ ⟨_, found'⟩ ⟨rfl, hfound⟩
  have htext := text_congr hfound ("method " ++ variant)
  have hsignature := readSignature_alike hfound
  dsimp only at htext hsignature ⊢
  rw [htext, hsignature]
  exact .refl _

theorem readAllocations_alike (hentries : AlikeEntries entries others) (h : Alike value other)
    (format : NameFormat) :
    readAllocations entries value format = readAllocations others other format := by
  rw [readAllocations, readAllocations, hentries.hasField_eq, hentries.hasField_eq, text_congr h]

theorem related_ofValue_of_alike (h : Alike value other) :
    Related Eq SameButQuoted (ofValue value) (ofValue other) := by
  cases h with
  | refl => exact .refl _
  | @map entries others hentries =>
    simp only [ofValue]
    refine (related_readFormat (alike_getD (hentries.field? "class_name_format") _)).bind ?_
    rintro format _ rfl
    have hallocations := hentries.field? "allocations"
    have hclass := hentries.field? "class"
    have hmethod := hentries.field? "method"
    generalize Value.field? entries "allocations" = allocations at hallocations ⊢
    generalize Value.field? others "allocations" = allocations' at hallocations ⊢
    cases hallocations with
    | some hvalue =>
      simp only [readAllocations_alike hentries hvalue]
      exact .refl _
    | none =>
      generalize Value.field? entries "class" = cls at hclass ⊢
      generalize Value.field? others "class" = cls' at hclass ⊢
      generalize Value.field? entries "method" = method at hmethod ⊢
      generalize Value.field? others "method" = method' at hmethod ⊢
      cases hclass with
      | none => exact .refl _
      | some hclasses =>
        cases hmethod with
        | none => exact .refl _
        | some hmethods =>
          simp only [readClass_congr hclasses, readMethod_congr hmethods]
          exact .refl _
  | _ => exact .error (.same _)

/-! ## Documents -/

theorem related_listOfValue (h : Alike value other) :
    Related Eq SameButQuoted (listOfValue value) (listOfValue other) := by
  have hsingle := (related_ofValue_of_alike h).map ([·])
  cases h with
  | refl => exact .refl _
  | @map entries others hentries =>
    have hmatchers := hentries.field? "matchers"
    simp only [listOfValue]
    generalize Value.field? entries "matchers" = matchers at hmatchers ⊢
    generalize Value.field? others "matchers" = matchers' at hmatchers ⊢
    cases hmatchers with
    | none => exact hsingle
    | @some found _ hvalue =>
      cases hvalue with
      | refl =>
        cases found with
        | list items => cases items <;> exact .refl _
        | _ => exact .refl _
      | list hitems =>
        cases hitems with
        | nil => exact .refl _
        | cons hfirst hrest =>
          have hforall := (AlikeItems.cons hfirst hrest).forall₂
          exact Related.mapM (hforall.imp fun _ _ => related_ofValue_of_alike)
      | _ => exact .refl _
  | _ => exact hsingle

/-- Two documents that differ in the order of sets only are loaded alike: with the same log, and to
    the same matchers or the same error, unless the error quotes a set. Then nothing is logged. -/
theorem loadMatchers_alike (h : Alike value other) :
    loadMatchers value = loadMatchers other ∨
      ∃ shown shown', ShownAlike shown shown' ∧
        loadMatchers value = ⟨[], .error (.config (.unknownFormat shown))⟩ ∧
        loadMatchers other = ⟨[], .error (.config (.unknownFormat shown'))⟩ := by
  have hlist := related_listOfValue h
  rw [loadMatchers, loadMatchers]
  generalize listOfValue value = configs at hlist ⊢
  generalize listOfValue other = configs' at hlist ⊢
  cases hlist with
  | ok hconfigs => exact .inl (by rw [hconfigs])
  | error herror =>
    cases herror with
    | same => exact .inl rfl
    | quoted hshown => exact .inr ⟨_, _, hshown, rfl, rfl⟩

end MatcherConfig
end CallSites
