/-
  CallSites.Proofs.Descriptor.Reading

  Reading a descriptor is the inverse of writing it. Every reader stops where the text of the value
  that it returns stops, whatever follows, so types that are written side by side are cut apart at
  one place only, and no text belongs to two descriptors.
-/
import CallSites.Descriptor.Read
import Mathlib

namespace CallSites

/-! ## Class names -/

theorem segments_eq_splitOn (text : List Symbol) : segments text = text.splitOn (.char '/') := by
  induction text with
  | nil => rfl
  | cons c rest ih =>
    obtain ⟨first, more, hrest⟩ := List.exists_cons_of_ne_nil
      (List.splitOn_ne_nil (.char '/') rest)
    rw [segments, List.splitOn_cons_eq_if_modifyHead, ih, hrest]
    by_cases hc : c = .char '/' <;> simp [hc]

@[simp] theorem segments_ne_nil (text : List Symbol) : segments text ≠ [] := by
  rw [segments_eq_splitOn]
  exact List.splitOn_ne_nil (.char '/') text

@[simp] theorem intercalate_segments (text : List Symbol) :
    [.char '/'].intercalate (segments text) = text := by
  rw [segments_eq_splitOn, List.intercalate_splitOn]

theorem segments_intercalate {parts : List (List Symbol)} (hne : parts ≠ [])
    (hslash : ∀ part ∈ parts, .char '/' ∉ part) :
    segments ([.char '/'].intercalate parts) = parts := by
  rw [segments_eq_splitOn, List.splitOn_intercalate (.char '/') hslash hne]

theorem slash_notMem_of_mem_segments {text segment : List Symbol} (h : segment ∈ segments text) :
    .char '/' ∉ segment := by
  -- A slash opens an empty segment, and any other character joins the first one.
  induction text generalizing segment with
  | nil => simp_all [segments]
  | cons c rest ih =>
    obtain ⟨first, more, hrest⟩ := List.exists_cons_of_ne_nil (segments_ne_nil rest)
    rw [segments, hrest] at h
    rw [hrest] at ih
    split at h
    · rcases List.mem_cons.mp h with rfl | htail
      · exact List.not_mem_nil
      · exact ih htail
    · next hc =>
      rcases List.mem_cons.mp h with rfl | htail
      · have hfirst : .char '/' ∉ first := ih List.mem_cons_self
        simp [hfirst, Ne.symm hc]
      · exact ih (List.mem_cons_of_mem _ htail)

/-- All characters but the slashes belong to a segment. -/
theorem exists_mem_segments {text : List Symbol} {c : Symbol} (hmem : c ∈ text)
    (hc : c ≠ .char '/') : ∃ segment ∈ segments text, c ∈ segment := by
  rw [← intercalate_segments text] at hmem
  generalize segments text = parts at hmem
  -- What is left are parts with slashes between them, whatever text they are the segments of.
  induction parts with
  | nil => cases hmem
  | cons part parts ih =>
    cases parts with
    | nil => exact ⟨part, by simp, by simpa using hmem⟩
    | cons next more =>
      rw [List.intercalate_cons_cons] at hmem
      simp only [List.mem_append, List.mem_singleton, hc, or_false] at hmem
      rcases hmem with hin | hin
      · exact ⟨part, by simp, hin⟩
      · obtain ⟨segment, hsegment, hin⟩ := ih hin
        exact ⟨segment, List.mem_cons_of_mem _ hsegment, hin⟩

namespace InternalName

/-- Between its slashes a class name holds name characters only. -/
theorem notMem_chars (name : InternalName) {c : Symbol} (hslash : c ≠ .char '/')
    (hchar : isNameChar c = false) : c ∉ name.chars := by
  intro hc
  obtain ⟨segment, hsegment, hin⟩ := exists_mem_segments hc hslash
  have hlegal : isNameChar c = true :=
    List.all_eq_true.mp (name.legal segment hsegment).2 c hin
  rw [hchar] at hlegal
  cases hlegal

/-- The semicolon that ends a class name in a descriptor does not occur inside the name. -/
theorem ne_semicolon_of_mem (name : InternalName) {c : Symbol} (hc : c ∈ name.chars) :
    c ≠ .char ';' := by
  rintro rfl
  exact name.notMem_chars (by decide) (by decide) hc

theorem chars_ne_nil (name : InternalName) : name.chars ≠ [] := by
  intro hnil
  have hlegal := name.legal [] (by rw [hnil]; exact List.mem_cons_self)
  exact hlegal.1 rfl

theorem ofChars_eq_ok_iff {text : List Symbol} {name : InternalName} :
    ofChars text = .ok name ↔ text = name.chars := by
  refine ⟨?_, ?_⟩
  · intro h
    unfold ofChars at h
    split at h
    · cases h; rfl
    · cases h
  · rintro rfl
    have hnone := firstBadSegment?_eq_none_iff.mpr name.legal
    unfold ofChars
    split
    · rfl
    · next fault hfault => rw [hnone] at hfault; cases hfault

@[simp] theorem ofChars_chars (name : InternalName) : ofChars name.chars = .ok name :=
  ofChars_eq_ok_iff.mpr rfl

end InternalName

/-! ## Element types -/

namespace Element

theorem read_chars_append (position : Nat) (element : Element) (rest : List Symbol) :
    read position (element.chars ++ rest) = .ok (element, rest) := by
  cases element with
  | primitive type => simp [chars, read]
  | reference name =>
    -- The first semicolon is the one after the name, because the name holds none.
    have hname : ∀ c ∈ name.chars, (c != .char ';') = true := by
      intro c hc
      simpa using name.ne_semicolon_of_mem hc
    have htake : (name.chars ++ .char ';' :: rest).takeWhile (· != .char ';') = name.chars := by
      rw [List.takeWhile_append_of_pos hname]
      simp
    have hdrop : (name.chars ++ .char ';' :: rest).dropWhile (· != .char ';')
        = .char ';' :: rest := by
      rw [List.dropWhile_append_of_pos hname]
      simp
    have hcode : Primitive.ofCode? (.char 'L') = none := rfl
    simp [chars, read, hcode, htake, hdrop]

theorem eq_append_of_read {position : Nat} {text rest : List Symbol} {element : Element}
    (h : read position text = .ok (element, rest)) : text = element.chars ++ rest := by
  cases text with
  | nil => cases h
  | cons c tail =>
    simp only [read] at h
    split at h
    · next type hcode =>
      cases h
      rw [Primitive.eq_of_ofCode? hcode]
      rfl
    · split at h
      · next hL =>
        split at h
        · cases h
        · next d after hdrop =>
          split at h
          · cases h
          · next name hname =>
            cases h
            -- Only a semicolon stops the run, so the run and the rest make up the tail.
            have hd : d = .char ';' := by
              have hhead := List.head?_dropWhile_not (· != .char ';') tail
              rw [hdrop] at hhead
              simpa using hhead
            have htext := List.takeWhile_append_dropWhile (p := (· != .char ';')) (l := tail)
            rw [InternalName.ofChars_eq_ok_iff.mp hname, hdrop, hd] at htext
            rw [hL, ← htext]
            simp [chars]
      · cases h

/-- The text of an element type begins with neither a bracket nor a parenthesis. -/
theorem exists_chars_eq_cons (element : Element) :
    ∃ c tail, element.chars = c :: tail ∧ c ≠ .char '[' ∧ c ≠ .char ')' := by
  cases element with
  | primitive type => exact ⟨type.code, [], rfl, by cases type <;> decide⟩
  | reference name => exact ⟨.char 'L', name.chars ++ [.char ';'], rfl, by decide⟩

end Element

/-! ## Field types -/

namespace FieldType

theorem read_chars_append (position : Nat) (type : FieldType) (rest : List Symbol) :
    read position (type.chars ++ rest) = .ok (type, rest) := by
  obtain ⟨dimensions, element, hle⟩ := type
  obtain ⟨c, tail, hchars, hbracket, -⟩ := element.exists_chars_eq_cons
  have htext : FieldType.chars ⟨dimensions, element, hle⟩ ++ rest
      = List.replicate dimensions (.char '[') ++ (element.chars ++ rest) := by
    simp [chars]
  -- The element begins with no bracket, so the run of brackets is as long as the dimensions.
  have hall : ∀ c ∈ List.replicate dimensions (Symbol.char '['), (c == .char '[') = true := by
    intro c hc
    simp [List.eq_of_mem_replicate hc]
  have htake :
      (List.replicate dimensions (Symbol.char '[') ++ (element.chars ++ rest)).takeWhile
        (· == .char '[') = List.replicate dimensions (.char '[') := by
    rw [List.takeWhile_append_of_pos hall, hchars]
    simp [hbracket]
  have hdrop :
      (List.replicate dimensions (Symbol.char '[') ++ (element.chars ++ rest)).dropWhile
        (· == .char '[') = element.chars ++ rest := by
    rw [List.dropWhile_append_of_pos hall, hchars]
    simp [hbracket]
  simp [read, htext, htake, hdrop, hle, Element.read_chars_append]

theorem eq_append_of_read {position : Nat} {text rest : List Symbol} {type : FieldType}
    (h : read position text = .ok (type, rest)) : text = type.chars ++ rest := by
  simp only [read] at h
  split at h
  · split at h
    · cases h
    · next element rest' hread =>
      cases h
      -- The run that was taken off holds brackets only, so its length determines it.
      have hbrackets : text.takeWhile (· == .char '[')
          = List.replicate (text.takeWhile (· == .char '[')).length (.char '[') := by
        refine List.eq_replicate_of_mem ?_
        intro c hc
        simpa using List.all_eq_true.mp List.all_takeWhile c hc
      calc text = text.takeWhile (· == .char '[') ++ text.dropWhile (· == .char '[') :=
            List.takeWhile_append_dropWhile.symm
        _ = List.replicate (text.takeWhile (· == .char '[')).length (.char '[') ++
              (element.chars ++ rest) := by
            rw [← hbrackets, Element.eq_append_of_read hread]
        _ = _ := by simp [chars]
  · cases h

/-- A field type is read from the front of a text exactly if the text begins with it. -/
theorem read_eq_ok_iff {position : Nat} {text rest : List Symbol} {type : FieldType} :
    read position text = .ok (type, rest) ↔ text = type.chars ++ rest :=
  ⟨eq_append_of_read, fun h => h ▸ read_chars_append position type rest⟩

/-- The text of a field type does not begin with the parenthesis that ends the parameters. -/
theorem exists_chars_eq_cons (type : FieldType) :
    ∃ c tail, type.chars = c :: tail ∧ c ≠ .char ')' := by
  obtain ⟨dimensions, element, hle⟩ := type
  obtain ⟨c, tail, hchars, -, hparen⟩ := element.exists_chars_eq_cons
  cases dimensions with
  | zero => exact ⟨c, tail, by simp [chars, hchars], hparen⟩
  | succ n => exact ⟨.char '[', List.replicate n (.char '[') ++ element.chars, rfl, by decide⟩

end FieldType

/-! ## Parameters -/

@[simp] theorem readParameters_paren (position : Nat) (rest : List Symbol) :
    readParameters position (.char ')' :: rest) = .ok ([], position + 1, rest) := by
  rw [readParameters]

/-- One round of reading: a field type at the front is taken off and the rest is read on. -/
theorem readParameters_chars_append (position : Nat) (type : FieldType) (rest : List Symbol) :
    readParameters position (type.chars ++ rest) =
      match readParameters (position + type.chars.length) rest with
      | .error fault => .error fault
      | .ok (types, ending) => .ok (type :: types, ending) := by
  obtain ⟨c, tail, hchars, hc⟩ := type.exists_chars_eq_cons
  have htext : type.chars ++ rest = c :: (tail ++ rest) := by simp [hchars]
  have hread := FieldType.read_chars_append position type rest
  -- The equation of the reader needs a first character, which must not be the parenthesis.
  rw [htext] at hread ⊢
  rw [readParameters]
  · split
    · next fault herror => rw [hread] at herror; cases herror
    · next type' after hok => rw [hread] at hok; cases hok; rfl
  · exact hc

theorem readParameters_flatMap_append (position : Nat) (types : List FieldType)
    (rest : List Symbol) :
    readParameters position (types.flatMap FieldType.chars ++ .char ')' :: rest) =
      .ok (types, position + (types.flatMap FieldType.chars).length + 1, rest) := by
  -- Each round takes one type off and moves the position by its text.
  induction types generalizing position with
  | nil => simp
  | cons type types ih =>
    rw [List.flatMap_cons, List.append_assoc, readParameters_chars_append, ih]
    simp [Nat.add_assoc]

theorem eq_append_of_readParameters {position ending : Nat} {text rest : List Symbol}
    {types : List FieldType} (h : readParameters position text = .ok (types, ending, rest)) :
    text = types.flatMap FieldType.chars ++ .char ')' :: rest := by
  -- Along the rounds of the reader. Only the end and a round with a type succeed.
  fun_induction readParameters position text generalizing types with
  | case1 => cases h
  | case2 => cases h; rfl
  | case3 => cases h
  | case4 => cases h
  | case5 position c tail _ type after hread types' ending' hrest ih =>
    cases h
    rw [FieldType.eq_append_of_read hread, ih hrest]
    simp

/-! ## Method descriptors -/

theorem readResult_chars (position : Nat) (result : ReturnType) :
    readResult position result.chars = .ok result := by
  cases result with
  | void => rfl
  | value type =>
    have hread := FieldType.read_chars_append position type []
    rw [List.append_nil] at hread
    -- The letter for no result is not read as a type, so the first test of the reader fails.
    have hvoid : type.chars ≠ [.char voidCode] := by
      intro hchars
      rw [hchars] at hread
      cases hread
    have hnil : type.chars ≠ [] := by
      obtain ⟨c, tail, hchars, -⟩ := type.exists_chars_eq_cons
      simp [hchars]
    simp [readResult, ReturnType.chars, hvoid, hnil, hread]

theorem eq_chars_of_readResult {position : Nat} {text : List Symbol} {result : ReturnType}
    (h : readResult position text = .ok result) : text = result.chars := by
  unfold readResult at h
  split at h
  · next hvoid => cases h; exact hvoid
  · split at h
    · cases h
    · split at h
      · cases h
      · next type hread =>
        cases h
        rw [FieldType.eq_append_of_read hread, List.append_nil]
        rfl
      · cases h

namespace MethodDescriptor

theorem readChars_chars (descriptor : MethodDescriptor) :
    readChars descriptor.chars = .ok descriptor := by
  simp [readChars, chars, readParameters_flatMap_append, readResult_chars]

theorem eq_chars_of_readChars {text : List Symbol} {descriptor : MethodDescriptor}
    (h : readChars text = .ok descriptor) : text = descriptor.chars := by
  unfold readChars at h
  split at h
  · next rest =>
    split at h
    · cases h
    · next parameters position rest' hparameters =>
      split at h
      · cases h
      · next result hresult =>
        cases h
        rw [eq_append_of_readParameters hparameters, eq_chars_of_readResult hresult]
        rfl
  · cases h

theorem readChars_eq_ok_iff {text : List Symbol} {descriptor : MethodDescriptor} :
    readChars text = .ok descriptor ↔ text = descriptor.chars :=
  ⟨eq_chars_of_readChars, fun h => h ▸ readChars_chars descriptor⟩

/-- A text reads as a descriptor exactly if it is the text of that descriptor. -/
theorem read_eq_ok_iff {text : Text} {descriptor : MethodDescriptor} :
    read text = .ok descriptor ↔ text = descriptor.text := by
  have hmap : read text = .ok descriptor ↔ readChars text.toList = .ok descriptor := by
    unfold read
    cases readChars text.toList <;> simp [Except.mapError]
  rw [hmap, readChars_eq_ok_iff, MethodDescriptor.text]
  refine ⟨?_, ?_⟩
  · intro h
    rw [← h, Text.ofList_toList]
  · rintro rfl
    rfl

@[simp] theorem read_text (descriptor : MethodDescriptor) :
    read descriptor.text = .ok descriptor :=
  read_eq_ok_iff.mpr rfl

theorem text_injective {a b : MethodDescriptor} (h : a.text = b.text) : a = b := by
  have ha := read_text a
  rw [h, read_text] at ha
  cases ha
  rfl

theorem text_eq_join (descriptor : MethodDescriptor) :
    descriptor.text =
      "(" ++ Text.join (descriptor.parameters.map FieldType.text) ++ ")" ++
        descriptor.result.text := by
  apply Text.toList_injective
  simp [MethodDescriptor.text, chars, FieldType.text, ReturnType.text,
    List.flatMap_map]

/-- Every refusal names the text as it was given. -/
theorem exists_read_eq_error {text : Text} (h : ∀ descriptor, read text ≠ .ok descriptor) :
    ∃ fault, read text = .error ⟨text, fault⟩ := by
  unfold read at h ⊢
  cases hread : readChars text.toList with
  | error fault => exact ⟨fault, rfl⟩
  | ok descriptor => exact absurd (by rw [hread]; rfl) (h descriptor)

end MethodDescriptor

theorem isMethodDescriptor_iff {text : Text} :
    isMethodDescriptor text = true ↔ ∃ descriptor, MethodDescriptor.read text = .ok descriptor := by
  unfold isMethodDescriptor
  cases MethodDescriptor.read text <;> simp [Except.isOk, Except.toBool]

@[simp] theorem isMethodDescriptor_text (descriptor : MethodDescriptor) :
    isMethodDescriptor descriptor.text = true :=
  isMethodDescriptor_iff.mpr ⟨descriptor, MethodDescriptor.read_text descriptor⟩

end CallSites
