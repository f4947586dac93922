/-
  CallSites.Proofs.Shown

  Printed forms tell values apart. Texts are quoted, so each of them ends by itself; records name
  their kind before the parenthesis and separate their fields by commas, so that the fields are read
  back one after the other. Values of the same or of different kinds are therefore equal exactly if
  they are printed alike.
-/
import CallSites.Proofs.Text.Quoted
import CallSites.Shown

namespace CallSites

/-! ## Items between parentheses -/

/-- What follows the first item between parentheses, up to the closing one. -/
def furtherItems : List String → String
  | [] => ")"
  | item :: items => ", " ++ item ++ furtherItems items

theorem intercalate_comma_append (item : String) (items : List String) (rest : String) :
    ", ".intercalate (item :: items) ++ (")" ++ rest) = item ++ (furtherItems items ++ rest) := by
  induction items generalizing item with
  | nil => rw [String.intercalate_singleton, furtherItems]
  | cons next items ih =>
    rw [String.intercalate_cons_cons, String.append_assoc, ih, furtherItems]
    simp only [String.append_assoc]

/-- What follows the first field of a record. -/
def furtherFields (fields : List (String × String)) : String :=
  furtherItems (fields.map fun field => field.1 ++ "=" ++ field.2)

theorem record_append (kind name text : String) (fields : List (String × String))
    (rest : String) :
    record kind ((name, text) :: fields) ++ rest =
      kind ++ "(" ++ name ++ "=" ++ (text ++ (furtherFields fields ++ rest)) := by
  simp only [record, List.map_cons, String.append_assoc, intercalate_comma_append, furtherFields]

theorem furtherFields_append (name text : String) (fields : List (String × String))
    (rest : String) :
    furtherFields ((name, text) :: fields) ++ rest =
      ", " ++ name ++ "=" ++ (text ++ (furtherFields fields ++ rest)) := by
  simp only [furtherFields, List.map_cons, furtherItems, String.append_assoc]

section Fields

variable {α : Type} {print : α → String} {a b : α} {kind name rest rest' : String}
  {fields fields' : List (String × String)}

/-- The first field of a record is read back if its printed form ends by itself. -/
theorem SelfDelimiting.record_cons (hprint : SelfDelimiting print)
    (h : record kind ((name, print a) :: fields) ++ rest =
      record kind ((name, print b) :: fields') ++ rest') :
    a = b ∧ furtherFields fields ++ rest = furtherFields fields' ++ rest' := by
  rw [record_append, record_append, String.append_right_inj] at h
  exact hprint h

/-- So is the next one. -/
theorem SelfDelimiting.field_cons (hprint : SelfDelimiting print)
    (h : furtherFields ((name, print a) :: fields) ++ rest =
      furtherFields ((name, print b) :: fields') ++ rest') :
    a = b ∧ furtherFields fields ++ rest = furtherFields fields' ++ rest' := by
  rw [furtherFields_append, furtherFields_append, String.append_right_inj] at h
  exact hprint h

/-- Behind its last field a record ends. -/
theorem eq_of_furtherFields_nil (h : furtherFields [] ++ rest = furtherFields [] ++ rest') :
    rest = rest' :=
  (String.append_right_inj _).mp h

end Fields

/-! ## Sequences -/

/-- What follows the first item of a sequence. -/
def sequenceEnd : List String → String
  | [] => ",)"
  | item :: items => furtherItems (item :: items)

theorem sequence_nil_append (rest : String) : sequence [] ++ rest = "(" ++ (")" ++ rest) := by
  simp only [sequence, String.intercalate_nil, String.append_empty, String.append_assoc]

theorem sequence_cons_append (item : String) (items : List String) (rest : String) :
    sequence (item :: items) ++ rest = "(" ++ (item ++ (sequenceEnd items ++ rest)) := by
  cases items with
  | nil => simp only [sequence, sequenceEnd, String.append_assoc]
  | cons next items =>
    simp only [sequence, sequenceEnd, String.append_assoc, intercalate_comma_append]

section Sequences

variable {α : Type} {print : α → String}

/-- Items are read back one by one, as long as commas follow. -/
theorem SelfDelimiting.furtherItems (hprint : SelfDelimiting print) :
    SelfDelimiting fun values : List α => CallSites.furtherItems (values.map print) := by
  intro values others rest rest' h
  -- Where one list ends a parenthesis stands, and where the other goes on a comma.
  induction values generalizing others with
  | nil =>
    cases others with
    | nil => exact ⟨rfl, (String.append_right_inj _).mp h⟩
    | cons other others =>
      have hchars := congrArg String.toList h
      simp [CallSites.furtherItems] at hchars
  | cons value values ih =>
    cases others with
    | nil =>
      have hchars := congrArg String.toList h
      simp [CallSites.furtherItems] at hchars
    | cons other others =>
      simp only [List.map_cons, CallSites.furtherItems, String.append_assoc,
        String.append_right_inj] at h
      obtain ⟨rfl, hmore⟩ := hprint h
      obtain ⟨rfl, hrest⟩ := ih hmore
      exact ⟨rfl, hrest⟩

/-- The comma of a single item is followed by the parenthesis, and any other one by a space. -/
theorem SelfDelimiting.sequenceEnd (hprint : SelfDelimiting print) :
    SelfDelimiting fun values : List α => CallSites.sequenceEnd (values.map print) := by
  intro values others rest rest' h
  -- Both begin with a comma, so the clash is in the character after it.
  cases values with
  | nil =>
    cases others with
    | nil => exact ⟨rfl, (String.append_right_inj _).mp h⟩
    | cons other others =>
      have hchars := congrArg String.toList h
      simp [CallSites.sequenceEnd, CallSites.furtherItems] at hchars
  | cons value values =>
    cases others with
    | nil =>
      have hchars := congrArg String.toList h
      simp [CallSites.sequenceEnd, CallSites.furtherItems] at hchars
    | cons other others => exact hprint.furtherItems h

/-- A sequence is read back if no item is printed with the closing parenthesis in front. -/
theorem SelfDelimiting.sequence (hprint : SelfDelimiting print)
    (hopen : ∀ value rest rest', print value ++ rest ≠ ")" ++ rest') :
    SelfDelimiting fun values : List α => CallSites.sequence (values.map print) := by
  intro values others rest rest' h
  cases values with
  | nil =>
    cases others with
    | nil => exact ⟨rfl, (String.append_right_inj _).mp h⟩
    | cons other others =>
      simp only [List.map_nil, List.map_cons, sequence_nil_append, sequence_cons_append,
        String.append_right_inj] at h
      exact absurd h.symm (hopen other _ _)
  | cons value values =>
    cases others with
    | nil =>
      simp only [List.map_nil, List.map_cons, sequence_nil_append, sequence_cons_append,
        String.append_right_inj] at h
      exact absurd h (hopen value _ _)
    | cons other others =>
      simp only [List.map_cons, sequence_cons_append, String.append_right_inj] at h
      obtain ⟨rfl, hmore⟩ := hprint h
      obtain ⟨rfl, hrest⟩ := hprint.sequenceEnd hmore
      exact ⟨rfl, hrest⟩

end Sequences

/-! ## Kinds of records -/

/-- Records are of one kind if they are printed alike: the kind ends at the parenthesis. -/
theorem kind_eq_of_record_append {kind kind' : String} {fields fields' : List (String × String)}
    {rest rest' : String} (hkind : '(' ∉ kind.toList) (hkind' : '(' ∉ kind'.toList)
    (h : record kind fields ++ rest = record kind' fields' ++ rest') : kind = kind' := by
  have hbefore : ∀ {kind : String} (fields : List (String × String)) (rest : String),
      '(' ∉ kind.toList →
      (record kind fields ++ rest).toList.takeWhile (· != '(') = kind.toList := by
    intro kind fields rest hkind
    have hall : ∀ c ∈ kind.toList, (c != '(') = true := by
      intro c hc
      exact bne_iff_ne.mpr fun heq => hkind (heq ▸ hc)
    simp [record, List.takeWhile_append_of_pos hall]
  apply String.toList_injective
  rw [← hbefore fields rest hkind, h, hbefore fields' rest' hkind']

/-- Records of different kinds are not printed alike, whatever follows. -/
theorem record_append_ne {kind kind' : String} {fields fields' : List (String × String)}
    {rest rest' : String} (hkind : '(' ∉ kind.toList) (hkind' : '(' ∉ kind'.toList)
    (hne : kind ≠ kind') : record kind fields ++ rest ≠ record kind' fields' ++ rest' :=
  fun h => hne (kind_eq_of_record_append hkind hkind' h)

/-! ## Handles -/

theorem ClassHandle.selfDelimiting_shown : SelfDelimiting ClassHandle.shown := by
  intro cls other rest rest' h
  obtain ⟨hname, hrest⟩ := Text.selfDelimiting_quote.record_cons h
  exact ⟨eq_of_name_eq hname, eq_of_furtherFields_nil hrest⟩

/-- A handle is printed with the letter of its kind in front. -/
theorem ClassHandle.exists_shown_eq (cls : ClassHandle) :
    ∃ tail, cls.shown.toList = 'C' :: tail := by
  refine ⟨("lassRef(name=" ++ Text.quote cls.name ++ ")").toList, ?_⟩
  simp [shown, record]

namespace TypeName

/-- No type name is printed with a closing parenthesis in front. -/
theorem shown_append_ne (name : TypeName) (rest rest' : String) :
    name.shown ++ rest ≠ ")" ++ rest' := by
  have hparen : ")".toList = ')' :: [] := by decide
  cases name with
  | written text => exact Text.quote_append_ne text hparen (by decide)
  | handle cls =>
    obtain ⟨tail, hcls⟩ := cls.exists_shown_eq
    exact append_ne_of_first_ne hcls hparen (by decide)

/-- A text is not printed like a handle, whatever follows. -/
theorem written_shown_append_ne (text : Text) (cls : ClassHandle) (rest rest' : String) :
    (written text).shown ++ rest ≠ (handle cls).shown ++ rest' := by
  obtain ⟨tail, hcls⟩ := cls.exists_shown_eq
  exact Text.quote_append_ne text hcls (by decide)

theorem selfDelimiting_shown : SelfDelimiting shown := by
  intro name other rest rest' h
  cases name with
  | written text =>
    cases other with
    | written text' =>
      obtain ⟨rfl, hrest⟩ := Text.selfDelimiting_quote h
      exact ⟨rfl, hrest⟩
    | handle cls => exact absurd h (written_shown_append_ne text cls rest rest')
  | handle cls =>
    cases other with
    | written text => exact absurd h.symm (written_shown_append_ne text cls rest' rest)
    | handle cls' =>
      obtain ⟨rfl, hrest⟩ := ClassHandle.selfDelimiting_shown h
      exact ⟨rfl, hrest⟩

end TypeName

theorem MethodHandle.selfDelimiting_shown : SelfDelimiting MethodHandle.shown := by
  intro method other rest rest' h
  have hsequence := TypeName.selfDelimiting_shown.sequence TypeName.shown_append_ne
  obtain ⟨hname, hparameters⟩ := Text.selfDelimiting_quote.record_cons h
  obtain ⟨hparameters, hresult⟩ := hsequence.field_cons hparameters
  obtain ⟨hresult, hrest⟩ := TypeName.selfDelimiting_shown.field_cons hresult
  exact ⟨eq_of_parts_eq hname hparameters hresult, eq_of_furtherFields_nil hrest⟩

/-! ## Matchers -/

theorem ClassMatcher.selfDelimiting_shown : SelfDelimiting ClassMatcher.shown := by
  intro classes other rest rest' h
  cases classes with
  | exact name =>
    cases other with
    | exact name' =>
      obtain ⟨rfl, hrest⟩ := Text.selfDelimiting_quote.record_cons h
      exact ⟨rfl, eq_of_furtherFields_nil hrest⟩
    | regex => exact absurd h (record_append_ne (by decide) (by decide) (by decide))
  | regex pattern =>
    cases other with
    | exact => exact absurd h (record_append_ne (by decide) (by decide) (by decide))
    | regex pattern' =>
      obtain ⟨htext, hrest⟩ := Text.selfDelimiting_quote.record_cons h
      obtain rfl : pattern = pattern' := Regex.Pattern.eq_of_text_eq (Text.ofString_injective htext)
      exact ⟨rfl, eq_of_furtherFields_nil hrest⟩

theorem MethodMatcher.selfDelimiting_shown : SelfDelimiting MethodMatcher.shown := by
  intro methods other rest rest' h
  cases methods with
  | named name =>
    cases other with
    | named name' =>
      obtain ⟨rfl, hrest⟩ := Text.selfDelimiting_quote.record_cons h
      exact ⟨rfl, eq_of_furtherFields_nil hrest⟩
    | regex | signature =>
      exact absurd h (record_append_ne (by decide) (by decide) (by decide))
  | regex pattern =>
    cases other with
    | regex pattern' =>
      obtain ⟨htext, hrest⟩ := Text.selfDelimiting_quote.record_cons h
      obtain rfl : pattern = pattern' := Regex.Pattern.eq_of_text_eq (Text.ofString_injective htext)
      exact ⟨rfl, eq_of_furtherFields_nil hrest⟩
    | named | signature =>
      exact absurd h (record_append_ne (by decide) (by decide) (by decide))
  | signature name descriptor =>
    cases other with
    | signature name' descriptor' =>
      obtain ⟨rfl, hdescriptor⟩ := Text.selfDelimiting_quote.record_cons h
      obtain ⟨rfl, hrest⟩ := Text.selfDelimiting_quote.field_cons hdescriptor
      exact ⟨rfl, eq_of_furtherFields_nil hrest⟩
    | named | regex =>
      exact absurd h (record_append_ne (by decide) (by decide) (by decide))

theorem NameFormat.selfDelimiting_shown : SelfDelimiting NameFormat.shown := by
  intro format other rest rest' h
  have hchars := congrArg String.toList h
  cases format <;> cases other
  case internal.internal => exact ⟨rfl, (String.append_right_inj _).mp h⟩
  case canonical.canonical => exact ⟨rfl, (String.append_right_inj _).mp h⟩
  all_goals simp [shown] at hchars

theorem Matcher.selfDelimiting_shown : SelfDelimiting Matcher.shown := by
  intro matcher other rest rest' h
  obtain ⟨classes, methods, format, hspelled⟩ := matcher
  obtain ⟨classes', methods', format', hspelled'⟩ := other
  obtain ⟨rfl, hmethods⟩ := ClassMatcher.selfDelimiting_shown.record_cons h
  obtain ⟨rfl, hformat⟩ := MethodMatcher.selfDelimiting_shown.field_cons hmethods
  obtain ⟨rfl, hrest⟩ := NameFormat.selfDelimiting_shown.field_cons hformat
  exact ⟨rfl, eq_of_furtherFields_nil hrest⟩

/-! ## Configurations -/

theorem ClassChoice.selfDelimiting_shown : SelfDelimiting ClassChoice.shown := by
  intro choice other rest rest' h
  obtain ⟨variant, value⟩ := choice
  obtain ⟨variant', value'⟩ := other
  obtain ⟨rfl, hvalue⟩ := Text.selfDelimiting_quote.record_cons h
  obtain ⟨rfl, hrest⟩ := Text.selfDelimiting_quote.field_cons hvalue
  exact ⟨rfl, eq_of_furtherFields_nil hrest⟩

/-- The word for no text does not begin with a quote. -/
theorem Text.quote_append_ne_none (text : Text) (rest rest' : String) :
    quote text ++ rest ≠ "None" ++ rest' := by
  have hnone : "None".toList = 'N' :: "one".toList := by decide
  exact quote_append_ne text hnone (by decide)

theorem Text.selfDelimiting_quote_option :
    SelfDelimiting fun text : Option Text => (text.map quote).getD "None" := by
  intro text other rest rest' h
  cases text with
  | none =>
    cases other with
    | none => exact ⟨rfl, (String.append_right_inj _).mp h⟩
    | some other => exact absurd h.symm (quote_append_ne_none other rest' rest)
  | some text =>
    cases other with
    | none => exact absurd h (quote_append_ne_none text rest rest')
    | some other =>
      obtain ⟨rfl, hrest⟩ := selfDelimiting_quote h
      exact ⟨rfl, hrest⟩

theorem MethodChoice.selfDelimiting_shown : SelfDelimiting MethodChoice.shown := by
  intro choice other rest rest' h
  obtain ⟨variant, value, descriptor⟩ := choice
  obtain ⟨variant', value', descriptor'⟩ := other
  obtain ⟨rfl, hvalue⟩ := Text.selfDelimiting_quote.record_cons h
  obtain ⟨rfl, hdescriptor⟩ := Text.selfDelimiting_quote.field_cons hvalue
  obtain ⟨rfl, hrest⟩ := Text.selfDelimiting_quote_option.field_cons hdescriptor
  exact ⟨rfl, eq_of_furtherFields_nil hrest⟩

theorem MatcherConfig.selfDelimiting_shown : SelfDelimiting MatcherConfig.shown := by
  intro config other rest rest' h
  obtain ⟨classes, methods, format⟩ := config
  obtain ⟨classes', methods', format'⟩ := other
  obtain ⟨rfl, hmethods⟩ := ClassChoice.selfDelimiting_shown.record_cons h
  obtain ⟨rfl, hformat⟩ := MethodChoice.selfDelimiting_shown.field_cons hmethods
  obtain ⟨rfl, hrest⟩ := NameFormat.selfDelimiting_shown.field_cons hformat
  exact ⟨rfl, eq_of_furtherFields_nil hrest⟩

/-! ## Values of any kind -/

/-- A value that is printed as a record. -/
inductive Showable where
  | classHandle (cls : ClassHandle)
  | methodHandle (method : MethodHandle)
  | classMatcher (classes : ClassMatcher)
  | methodMatcher (methods : MethodMatcher)
  | matcher (matcher : Matcher)
  | classChoice (choice : ClassChoice)
  | methodChoice (choice : MethodChoice)
  | config (config : MatcherConfig)
  deriving DecidableEq

namespace Showable

/-- The printed form of a value. -/
def shown : Showable → String
  | .classHandle value => value.shown
  | .methodHandle value => value.shown
  | .classMatcher value => value.shown
  | .methodMatcher value => value.shown
  | .matcher value => value.shown
  | .classChoice value => value.shown
  | .methodChoice value => value.shown
  | .config value => value.shown

/-- The kinds of records that a value of this form may be printed as. -/
def kinds : Showable → List String
  | .classHandle _ => ["ClassRef"]
  | .methodHandle _ => ["MethodRef"]
  | .classMatcher _ => ["ExactClassName", "ClassRegex"]
  | .methodMatcher _ => ["ExactMethodName", "MethodRegex", "FullSignature"]
  | .matcher _ => ["InvocationCountMatcher"]
  | .classChoice _ => ["ClassMatchConfig"]
  | .methodChoice _ => ["MethodMatchConfig"]
  | .config _ => ["MatcherConfig"]

theorem exists_shown_eq_record (value : Showable) :
    ∃ kind ∈ value.kinds, '(' ∉ kind.toList ∧ ∃ fields, value.shown = record kind fields := by
  cases value with
  | classMatcher classes =>
    cases classes with
    | exact => exact ⟨"ExactClassName", by simp [kinds], by decide, _, rfl⟩
    | regex => exact ⟨"ClassRegex", by simp [kinds], by decide, _, rfl⟩
  | methodMatcher methods =>
    cases methods with
    | named => exact ⟨"ExactMethodName", by simp [kinds], by decide, _, rfl⟩
    | regex => exact ⟨"MethodRegex", by simp [kinds], by decide, _, rfl⟩
    | signature => exact ⟨"FullSignature", by simp [kinds], by decide, _, rfl⟩
  | _ => exact ⟨_, List.mem_singleton_self _, by decide, _, rfl⟩

/-- Values that are printed alike may be printed as one kind of record. -/
theorem exists_kind_of_shown_eq {a b : Showable} (h : a.shown = b.shown) :
    ∃ kind ∈ a.kinds, kind ∈ b.kinds := by
  obtain ⟨kind, hkind, hparen, fields, ha⟩ := a.exists_shown_eq_record
  obtain ⟨kind', hkind', hparen', fields', hb⟩ := b.exists_shown_eq_record
  have hrecords : record kind fields ++ "" = record kind' fields' ++ "" := by rw [← ha, h, hb]
  obtain rfl : kind = kind' := kind_eq_of_record_append hparen hparen' hrecords
  exact ⟨kind, hkind, hkind'⟩

theorem shown_injective : Function.Injective shown := by
  intro a b h
  have hcommon := exists_kind_of_shown_eq h
  -- Different forms have no kind in common, which leaves two values of one form.
  cases a with
  | classHandle cls =>
    cases b with
    | classHandle other => rw [ClassHandle.selfDelimiting_shown.injective h]
    | _ => simp [kinds] at hcommon
  | methodHandle method =>
    cases b with
    | methodHandle other => rw [MethodHandle.selfDelimiting_shown.injective h]
    | _ => simp [kinds] at hcommon
  | classMatcher classes =>
    cases b with
    | classMatcher other => rw [ClassMatcher.selfDelimiting_shown.injective h]
    | _ => simp [kinds] at hcommon
  | methodMatcher methods =>
    cases b with
    | methodMatcher other => rw [MethodMatcher.selfDelimiting_shown.injective h]
    | _ => simp [kinds] at hcommon
  | matcher counted =>
    cases b with
    | matcher other => rw [Matcher.selfDelimiting_shown.injective h]
    | _ => simp [kinds] at hcommon
  | classChoice choice =>
    cases b with
    | classChoice other => rw [ClassChoice.selfDelimiting_shown.injective h]
    | _ => simp [kinds] at hcommon
  | methodChoice choice =>
    cases b with
    | methodChoice other => rw [MethodChoice.selfDelimiting_shown.injective h]
    | _ => simp [kinds] at hcommon
  | config choices =>
    cases b with
    | config other => rw [MatcherConfig.selfDelimiting_shown.injective h]
    | _ => simp [kinds] at hcommon

end Showable

/-- Values of any two kinds are equal exactly if they are printed alike. What handles and patterns
    derive from their texts takes no part: they are equal as soon as the printed fields are. A
    missing descriptor and a descriptor that is the word for it are told apart, and so are a text
    and the handle of the class with that name. -/
theorem equal_exactly_if_shown_alike :
    (∀ a b : Showable, a = b ↔ a.shown = b.shown) ∧
      (∀ cls other : ClassHandle, cls = other ↔ cls.name = other.name) ∧
      (∀ method other : MethodHandle,
        method = other ↔
          method.name = other.name ∧ method.parameters = other.parameters ∧
            method.result = other.result) ∧
      (∀ pattern other : Regex.Pattern, pattern = other ↔ pattern.text = other.text) ∧
      (∀ variant value text : Text,
        (MethodChoice.mk variant value none).shown ≠
          (MethodChoice.mk variant value (some text)).shown) ∧
      ∀ (text : Text) (cls : ClassHandle),
        (TypeName.written text).shown ≠ (TypeName.handle cls).shown := by
  refine ⟨?_, ?_, ?_, ?_, ?_, ?_⟩
  · intro a b
    exact Showable.shown_injective.eq_iff.symm
  · intro cls other
    exact ⟨congrArg ClassHandle.name, ClassHandle.eq_of_name_eq⟩
  · intro method other
    refine ⟨?_, ?_⟩
    · rintro rfl
      exact ⟨rfl, rfl, rfl⟩
    · rintro ⟨hname, hparameters, hresult⟩
      exact MethodHandle.eq_of_parts_eq hname hparameters hresult
  · intro pattern other
    exact ⟨congrArg Regex.Pattern.text, Regex.Pattern.eq_of_text_eq⟩
  · intro variant value text h
    have hchoice := MethodChoice.selfDelimiting_shown.injective h
    cases hchoice
  · intro text cls h
    have hname := TypeName.selfDelimiting_shown.injective h
    cases hname

end CallSites
