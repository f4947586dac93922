/-
  CallSites.Proofs.Descriptor.Scanning

  Descriptors read by position. The text stays whole and a number says how far reading has come, so
  that every character is asked for by its position and might lie outside the text. It never does:
  scanning by position comes to what reading from the front of the rest comes to. A field type is
  therefore found alike wherever it stands, and the loop over the parameters moves on in every
  round until it ends.
-/
import CallSites.Proofs.Descriptor.Grammar
import CallSites.Proofs.Outcome

namespace CallSites
namespace Scan

/-! ## Reading by position -/

/-- Why scanning stops. -/
inductive Error where
  /-- A character was asked for at a position that the text does not have. -/
  | outside (position : Nat)
  | fault (fault : DescriptorFault)
  deriving DecidableEq

/-- The character at a position, which must be one of the text. -/
def charAt (text : List Symbol) (position : Nat) : Except Error Symbol :=
  match text[position]? with
  | some c => .ok c
  | none => .error (.outside position)

/-- The first position from a given one on where the character stands. -/
def find? (c : Symbol) (text : List Symbol) (position : Nat) : Option Nat :=
  ((text.drop position).findIdx? (· == c)).map (position + ·)

/-- The position behind the brackets at a position. -/
def pastBrackets (text : List Symbol) (position : Nat) : Except Error Nat :=
  if position < text.length then
    match charAt text position with
    | .error error => .error error
    | .ok c => if c = .char '[' then pastBrackets text (position + 1) else .ok position
  else .ok position
termination_by text.length - position

/-- The position behind the class name whose letter stands at a position. -/
def reference (text : List Symbol) (position : Nat) : Except Error Nat :=
  match find? (.char ';') text position with
  | none => .error (.fault .unterminatedReference)
  | some semicolon =>
    match InternalName.ofChars (text.extract (position + 1) semicolon) with
    | .error fault => .error (.fault fault)
    | .ok _ => .ok (semicolon + 1)

/-- The position behind the element type at a position. -/
def element (text : List Symbol) (position : Nat) : Except Error Nat :=
  if text.length ≤ position then .error (.fault .truncatedType)
  else do
    let c ← charAt text position
    if (Primitive.ofCode? c).isSome then .ok (position + 1)
    else if c = .char 'L' then reference text position
    else .error (.fault (.unexpected c position))

/-- The position behind the field type at a position. -/
def fieldType (text : List Symbol) (start : Nat) : Except Error Nat := do
  let position ← pastBrackets text start
  if maxDimensions < position - start then .error (.fault .dimensionsOverrun)
  else element text position

/-! ## Scanning and reading from the front -/

section FieldTypes

variable {text tail rest : List Symbol} {start position ending : Nat} {c : Symbol}

/-- What reading from the front found, as the position behind it. -/
def behind {α : Type} (start : Nat) (chars : α → List Symbol)
    (outcome : Except DescriptorFault (α × List Symbol)) : Except Error Nat :=
  (outcome.map fun found => start + (chars found.1).length).mapError .fault

theorem charAt_of_drop (h : text.drop position = c :: tail) : charAt text position = .ok c := by
  have hget : text[position]? = some c := by
    rw [← List.head?_drop, h, List.head?_cons]
  rw [charAt, hget]

theorem drop_succ_of_drop (h : text.drop position = c :: tail) :
    text.drop (position + 1) = tail := by
  rw [← List.drop_drop, h]
  rfl

theorem lt_length_of_drop (h : text.drop position = c :: tail) : position < text.length := by
  by_contra hle
  rw [List.drop_eq_nil_of_le (Nat.not_lt.mp hle)] at h
  cases h

theorem extract_of_drop (h : text.drop position = c :: tail) (count : Nat) :
    text.extract (position + 1) (position + (count + 1)) = tail.take count := by
  rw [List.extract_eq_take_drop, drop_succ_of_drop h]
  congr 1
  omega

/-- The run of brackets from a position on is passed, and no more. -/
theorem pastBrackets_eq (text : List Symbol) (position : Nat) :
    pastBrackets text position =
      .ok (position + ((text.drop position).takeWhile (· == .char '[')).length) := by
  -- Along the loop. Before the end of the text, the character asked for is the first of the rest.
  fun_induction pastBrackets text position with
  | case1 position hlt error herror =>
    rw [charAt_of_drop (List.drop_eq_getElem_cons hlt)] at herror
    cases herror
  | case2 position hlt hbracket ih =>
    have hdrop := List.drop_eq_getElem_cons hlt
    rw [charAt_of_drop hdrop] at hbracket
    have hc : text[position] = .char '[' := Except.ok.inj hbracket
    rw [ih, hdrop, hc, List.takeWhile_cons_of_pos (by decide), List.length_cons]
    congr 1
    omega
  | case3 position hlt c hc hbracket =>
    have hdrop := List.drop_eq_getElem_cons hlt
    rw [charAt_of_drop hdrop] at hc
    have hother : (text[position] == .char '[') = false := by
      rw [Except.ok.inj hc]
      exact beq_eq_false_iff_ne.mpr hbracket
    rw [hdrop, List.takeWhile_cons_of_neg (by simp [hother])]
    rfl
  | case4 position hge =>
    rw [List.drop_eq_nil_of_le (Nat.not_lt.mp hge)]
    rfl

/-- A semicolon is found behind the longest run without one. -/
theorem findIdx?_semicolon (text : List Symbol) :
    text.findIdx? (· == .char ';') =
      match text.dropWhile (· != .char ';') with
      | [] => none
      | _ :: _ => some (text.takeWhile (· != .char ';')).length := by
  induction text with
  | nil => rfl
  | cons c rest ih =>
    by_cases hc : c = .char ';'
    · rw [hc]
      rfl
    · have hne : (c != .char ';') = true := bne_iff_ne.mpr hc
      have hdrop : (c :: rest).dropWhile (· != .char ';') = rest.dropWhile (· != .char ';') :=
        List.dropWhile_cons_of_pos hne
      have htake : (c :: rest).takeWhile (· != .char ';') = c :: rest.takeWhile (· != .char ';') :=
        List.takeWhile_cons_of_pos hne
      rw [List.findIdx?_cons, if_neg (by simpa using hc), ih, hdrop, htake]
      cases rest.dropWhile (· != .char ';') <;> rfl

/-- The semicolon is looked for from the letter on, and read from behind the letter on. -/
theorem reference_eq (h : text.drop position = .char 'L' :: tail) :
    reference text position =
      behind position Element.chars (Element.read position (.char 'L' :: tail)) := by
  have hcode : Primitive.ofCode? (.char 'L') = none := rfl
  have hfind : find? (.char ';') text position =
      (tail.findIdx? (· == .char ';')).map fun count => position + (count + 1) := by
    rw [find?, h, List.findIdx?_cons, if_neg (by decide), Option.map_map]
    rfl
  rw [reference, hfind, findIdx?_semicolon, Element.read]
  simp only [hcode, if_pos]
  cases hdrop : tail.dropWhile (· != .char ';') with
  | nil => rfl
  | cons d after =>
    -- The run without a semicolon is what stands between the letter and the semicolon.
    have hname : tail.take (tail.takeWhile (· != .char ';')).length =
        tail.takeWhile (· != .char ';') :=
      (List.prefix_iff_eq_take.mp (List.takeWhile_prefix _)).symm
    simp only [Option.map_some, extract_of_drop h, hname]
    cases hread : InternalName.ofChars (tail.takeWhile (· != .char ';')) with
    | error fault => rfl
    | ok name =>
      have hchars := InternalName.ofChars_eq_ok_iff.mp hread
      have hlength : (Element.reference name).chars.length = name.chars.length + 2 := by
        simp [Element.chars]
      show Except.ok (position + ((tail.takeWhile (· != .char ';')).length + 1) + 1) =
        Except.ok (position + (Element.reference name).chars.length)
      rw [hlength, hchars]
      congr 1

/-- An element type is scanned as it is read from the front of the rest. -/
theorem element_eq (text : List Symbol) (position : Nat) :
    element text position =
      behind position Element.chars (Element.read position (text.drop position)) := by
  cases hdrop : text.drop position with
  | nil =>
    rw [element, if_pos (List.drop_eq_nil_iff.mp hdrop)]
    rfl
  | cons c tail =>
    have hlt := lt_length_of_drop hdrop
    rw [element, if_neg (Nat.not_le.mpr hlt), charAt_of_drop hdrop, ok_bind]
    cases hcode : Primitive.ofCode? c with
    | some type =>
      rw [Element.read, hcode]
      rfl
    | none =>
      by_cases hL : c = .char 'L'
      · subst hL
        rw [if_neg (by decide), if_pos rfl, reference_eq hdrop]
      · rw [if_neg (by decide), if_neg hL, Element.read, hcode]
        simp only [if_neg hL]
        rfl

/-- A field type is scanned as it is read from the front of the rest. -/
theorem fieldType_eq (text : List Symbol) (start : Nat) :
    fieldType text start =
      behind start FieldType.chars (FieldType.read start (text.drop start)) := by
  -- The position behind the brackets is where the reader goes on without them.
  have hsplit := List.takeWhile_append_dropWhile (p := (· == .char '[')) (l := text.drop start)
  have hbehind : text.drop (start + ((text.drop start).takeWhile (· == .char '[')).length) =
      (text.drop start).dropWhile (· == .char '[') := by
    rw [← List.drop_drop]
    conv => lhs; arg 2; rw [← hsplit]
    exact List.drop_left
  rw [fieldType, pastBrackets_eq, ok_bind, element_eq, hbehind, FieldType.read,
    Nat.add_sub_cancel_left]
  generalize hcount : ((text.drop start).takeWhile (· == .char '[')).length = count
  by_cases hle : count ≤ maxDimensions
  · rw [if_neg (Nat.not_lt.mpr hle)]
    simp only [dif_pos hle]
    cases hread : Element.read (start + count) ((text.drop start).dropWhile (· == .char '[')) with
    | error fault => rfl
    | ok found =>
      obtain ⟨element, rest⟩ := found
      have hlength : (FieldType.chars ⟨count, element, hle⟩).length =
          count + element.chars.length := by
        simp [FieldType.chars]
      show Except.ok (start + count + element.chars.length) =
        Except.ok (start + (FieldType.chars ⟨count, element, hle⟩).length)
      rw [hlength, Nat.add_assoc]
  · rw [if_pos (Nat.not_le.mp hle)]
    simp only [dif_neg hle]
    rfl

/-! ## Where a field type ends -/

theorem fieldType_eq_ok_iff :
    fieldType text start = .ok ending ↔
      ∃ type rest, text.drop start = FieldType.chars type ++ rest ∧
        ending = start + (FieldType.chars type).length := by
  rw [fieldType_eq, behind, mapError_eq_ok_iff, map_eq_ok_iff]
  refine ⟨?_, ?_⟩
  · rintro ⟨⟨type, rest⟩, hread, hending⟩
    exact ⟨type, rest, FieldType.read_eq_ok_iff.mp hread, hending.symm⟩
  · rintro ⟨type, rest, hdrop, hending⟩
    exact ⟨(type, rest), FieldType.read_eq_ok_iff.mpr hdrop, hending.symm⟩

/-- No character outside the text is asked for. -/
theorem fieldType_ne_outside (text : List Symbol) (start position : Nat) :
    fieldType text start ≠ .error (.outside position) := by
  rw [fieldType_eq, behind]
  cases FieldType.read start (text.drop start) with
  | error fault => exact fun h => nomatch h
  | ok found => exact fun h => nomatch h

/-- What stands around a field type makes no difference. -/
theorem fieldType_append (before : List Symbol) (type : FieldType) (after : List Symbol) :
    fieldType (before ++ (type.chars ++ after)) before.length =
      .ok (before.length + type.chars.length) := by
  have hdrop : (before ++ (type.chars ++ after)).drop before.length = type.chars ++ after :=
    List.drop_left
  exact fieldType_eq_ok_iff.mpr ⟨type, after, hdrop, rfl⟩

theorem length_chars_pos (type : FieldType) : 0 < type.chars.length := by
  obtain ⟨c, tail, hchars, -⟩ := type.exists_chars_eq_cons
  rw [hchars, List.length_cons]
  omega

/-- A field type in a text takes at least one character and ends within the text. -/
theorem lt_and_le_length_of_drop {type : FieldType} (h : text.drop start = type.chars ++ rest) :
    start < start + type.chars.length ∧ start + type.chars.length ≤ text.length := by
  have hpos := length_chars_pos type
  have hlength := congrArg List.length h
  rw [List.length_drop, List.length_append] at hlength
  omega

theorem extract_of_chars {type : FieldType} (h : text.drop start = type.chars ++ rest) :
    text.extract start (start + type.chars.length) = type.chars := by
  rw [List.extract_eq_take_drop, h, Nat.add_sub_cancel_left, List.take_left]

end FieldTypes

/-! ## The loop over the parameters -/

/-- One round of the loop: the position behind the field type at a position. There is none, and the
    loop is over, at the end of the text and at a parenthesis. -/
def round (text : List Symbol) (position : Nat) : Except Error (Option Nat) :=
  if position < text.length then do
    let c ← charAt text position
    if c = .char ')' then .ok none else (fieldType text position).map some
  else .ok none

/-- A round leads from one position to another. -/
def Advances (text : List Symbol) (position next : Nat) : Prop :=
  round text position = .ok (some next)

section Rounds

variable {text rest : List Symbol} {start position next : Nat}

/-- Everything that a round can come to. -/
inductive RoundAt (text : List Symbol) (position : Nat) : Prop where
  | ended : text.drop position = [] → round text position = .ok none → RoundAt text position
  | closed {rest : List Symbol} :
    text.drop position = .char ')' :: rest → round text position = .ok none → RoundAt text position
  | advanced {type : FieldType} {rest : List Symbol} :
    text.drop position = type.chars ++ rest →
    round text position = .ok (some (position + type.chars.length)) → RoundAt text position
  | failed {c : Symbol} {rest : List Symbol} {fault : DescriptorFault} :
    text.drop position = c :: rest → c ≠ .char ')' →
    FieldType.read position (c :: rest) = .error fault →
    round text position = .error (.fault fault) → RoundAt text position

theorem roundAt (text : List Symbol) (position : Nat) : RoundAt text position := by
  cases hdrop : text.drop position with
  | nil =>
    have hge := List.drop_eq_nil_iff.mp hdrop
    exact .ended hdrop (if_neg (Nat.not_lt.mpr hge))
  | cons c tail =>
    have hround : round text position =
        if c = .char ')' then .ok none else (fieldType text position).map some := by
      rw [round, if_pos (lt_length_of_drop hdrop), charAt_of_drop hdrop, ok_bind]
    by_cases hc : c = .char ')'
    · subst hc
      exact .closed hdrop (hround.trans (if_pos rfl))
    · rw [if_neg hc, fieldType_eq, hdrop] at hround
      cases hread : FieldType.read position (c :: tail) with
      | error fault =>
        rw [hread] at hround
        exact .failed hdrop hc hread hround
      | ok found =>
        obtain ⟨type, rest⟩ := found
        rw [hread] at hround
        exact .advanced (hdrop.trans (FieldType.eq_append_of_read hread)) hround

/-- A round takes one field type off. -/
theorem advances_iff :
    Advances text position next ↔
      ∃ type rest, text.drop position = FieldType.chars type ++ rest ∧
        next = position + (FieldType.chars type).length := by
  refine ⟨?_, ?_⟩
  · intro h
    rw [Advances] at h
    -- Of all that a round can come to, only one leads on.
    cases roundAt text position with
    | ended _ hround | closed _ hround | failed _ _ _ hround =>
      rw [hround] at h
      cases h
    | advanced hdrop hround =>
      rw [hround] at h
      cases h
      exact ⟨_, _, hdrop, rfl⟩
  · rintro ⟨type, rest, hdrop, rfl⟩
    obtain ⟨c, tail, hchars, hc⟩ := type.exists_chars_eq_cons
    have hcons : text.drop position = c :: (tail ++ rest) := by
      rw [hdrop, hchars, List.cons_append]
    have hscan := fieldType_eq_ok_iff.mpr ⟨type, rest, hdrop, rfl⟩
    rw [Advances, round, if_pos (lt_length_of_drop hcons), charAt_of_drop hcons, ok_bind, if_neg hc,
      hscan]
    rfl

/-- A round moves on and stays within the text. -/
theorem Advances.lt_and_le (h : Advances text position next) :
    position < next ∧ next ≤ text.length := by
  obtain ⟨type, rest, hdrop, rfl⟩ := advances_iff.mp h
  exact lt_and_le_length_of_drop hdrop

/-- There are no endless rounds, since each of them leaves less of the text. -/
theorem wellFounded_advances (text : List Symbol) :
    WellFounded fun next position => Advances text position next := by
  apply Subrelation.wf ?_ (measure fun position => text.length - position).wf
  intro next position h
  have hbounds := h.lt_and_le
  show text.length - next < text.length - position
  omega

theorem readParameters_of_error {c : Symbol} {fault : DescriptorFault} (hc : c ≠ .char ')')
    (h : FieldType.read position (c :: rest) = .error fault) :
    readParameters position (c :: rest) = .error fault := by
  rw [readParameters]
  · split
    · next other hother =>
      rw [h] at hother
      cases hother
      rfl
    · next type after hread =>
      rw [h] at hread
      cases hread
  · exact hc

/-- No round asks for a character outside the text. -/
theorem round_ne_outside (text : List Symbol) (position outside : Nat) :
    round text position ≠ .error (.outside outside) := by
  intro h
  cases roundAt text position with
  | ended _ hround | closed _ hround | advanced _ hround | failed _ _ _ hround =>
    rw [hround] at h
    cases h

/-- All rounds together stay between the start and the end of the text. -/
theorem le_of_reached (h : Relation.ReflTransGen (Advances text) start position) :
    start ≤ position ∧ (position = start ∨ position ≤ text.length) := by
  induction h with
  | refl => exact ⟨Nat.le_refl start, .inl rfl⟩
  | tail _ hround ih =>
    have hbounds := hround.lt_and_le
    exact ⟨by omega, .inr hbounds.2⟩

/-- The loop: the field types that its rounds pass, and the position where it ends. -/
def parameters (text : List Symbol) (position : Nat) : Except Error (List (List Symbol) × Nat) :=
  match _hround : round text position with
  | .error error => .error error
  | .ok none => .ok ([], position)
  | .ok (some next) =>
    (parameters text next).map fun more => (text.extract position next :: more.1, more.2)
termination_by text.length - position
decreasing_by
  have hbounds := Advances.lt_and_le _hround
  omega

/-- The loop and the parenthesis behind it. -/
def pastParameters (text : List Symbol) (start : Nat) :
    Except Error (List (List Symbol) × Nat) := do
  let (types, position) ← parameters text start
  if text.length ≤ position then .error (.fault .missingClosing) else .ok (types, position + 1)

/-- After a round the loop stops or begins anew. -/
theorem parameters_eq (text : List Symbol) (position : Nat) :
    parameters text position =
      match round text position with
      | .error error => .error error
      | .ok none => .ok ([], position)
      | .ok (some next) =>
        (parameters text next).map fun more =>
          (text.extract position next :: more.1, more.2) := by
  rw [parameters]
  split
  · next error hround => rw [hround]
  · next hround => rw [hround]
  · next after hround => rw [hround]

theorem parameters_of_none (h : round text position = .ok none) :
    parameters text position = .ok ([], position) := by
  rw [parameters_eq, h]

theorem parameters_of_error {error : Error} (h : round text position = .error error) :
    parameters text position = .error error := by
  rw [parameters_eq, h]

theorem parameters_of_advances (h : Advances text position next) :
    parameters text position =
      (parameters text next).map fun more =>
        (text.extract position next :: more.1, more.2) := by
  rw [Advances] at h
  rw [parameters_eq, h]

/-- The loop ends in a last round, and the rounds before it lead there. -/
theorem exists_last_round (text : List Symbol) (start : Nat) :
    ∃ position, Relation.ReflTransGen (Advances text) start position ∧
      ((round text position = .ok none ∧ ∃ types, parameters text start = .ok (types, position)) ∨
        ∃ error, round text position = .error error ∧ parameters text start = .error error) := by
  -- By the order of the rounds: what holds from the next position on may be assumed.
  induction start using (wellFounded_advances text).induction with
  | h start ih =>
    cases hround : round text start with
    | error error =>
      exact ⟨start, .refl, .inr ⟨error, hround, parameters_of_error hround⟩⟩
    | ok found =>
      cases found with
      | none => exact ⟨start, .refl, .inl ⟨hround, [], parameters_of_none hround⟩⟩
      | some next =>
        have hloop := parameters_of_advances hround
        obtain ⟨position, hreached, hlast⟩ := ih next hround
        refine ⟨position, .head hround hreached, ?_⟩
        rcases hlast with ⟨hnone, types, hparameters⟩ | ⟨error, herror, hparameters⟩
        · rw [hparameters] at hloop
          exact .inl ⟨hnone, _, hloop⟩
        · rw [hparameters] at hloop
          exact .inr ⟨error, herror, hloop⟩

theorem pastParameters_of_advances (h : Advances text position next) :
    pastParameters text position =
      (pastParameters text next).map fun more =>
        (text.extract position next :: more.1, more.2) := by
  rw [pastParameters, pastParameters, parameters_of_advances h]
  cases parameters text next with
  | error error => rfl
  | ok more =>
    obtain ⟨types, ending⟩ := more
    simp only [Except.map, ok_bind]
    by_cases hend : text.length ≤ ending
    · rw [if_pos hend, if_pos hend]
    · rw [if_neg hend, if_neg hend]

/-- What reading the parameters found: their texts, and the position behind the parenthesis. -/
def passed (outcome : Except DescriptorFault (List FieldType × Nat × List Symbol)) :
    Except Error (List (List Symbol) × Nat) :=
  (outcome.map fun found => (found.1.map FieldType.chars, found.2.1)).mapError .fault

/-- The parameters are scanned as they are read from the front of the rest. -/
theorem pastParameters_eq (text : List Symbol) (start : Nat) :
    pastParameters text start = passed (readParameters start (text.drop start)) := by
  induction start using (wellFounded_advances text).induction with
  | h start ih =>
    cases roundAt text start with
    | ended hdrop hround =>
      have hge := List.drop_eq_nil_iff.mp hdrop
      rw [pastParameters, parameters_of_none hround, hdrop, readParameters]
      exact if_pos hge
    | closed hdrop hround =>
      have hlt := lt_length_of_drop hdrop
      rw [pastParameters, parameters_of_none hround, hdrop, readParameters_paren]
      exact if_neg (Nat.not_le.mpr hlt)
    | @advanced type rest hdrop hround =>
      -- The reader is left with what stands from the next position on.
      have hrest : text.drop (start + type.chars.length) = rest := by
        rw [← List.drop_drop, hdrop, List.drop_left]
      rw [pastParameters_of_advances hround, ih _ hround, hrest, hdrop, readParameters_chars_append,
        extract_of_chars hdrop]
      cases readParameters (start + type.chars.length) rest with
      | error fault => rfl
      | ok found => rfl
    | failed hdrop hc hread hround =>
      have hfail := readParameters_of_error hc hread
      rw [pastParameters, parameters_of_error hround, hdrop, hfail]
      rfl

end Rounds

/-! ## Scanning as a whole -/

/-- Scanning by position comes to what reading from the front comes to, and asks for no character
    outside the text. Where it finds a field type, that is one of the grammar within the text, and
    it is found alike in any other surroundings. A field type that stands somewhere is found there,
    so no other one stands there too. The loop over the parameters therefore has no endless rounds.
    Each of them moves on within the text, and one of them is the last. -/
theorem scanning_stays_within_text (text : List Symbol) (start : Nat) :
    fieldType text start = behind start FieldType.chars (FieldType.read start (text.drop start)) ∧
    (∀ position, fieldType text start ≠ .error (.outside position)) ∧
    (∀ ending, fieldType text start = .ok ending →
      start < ending ∧ ending ≤ text.length ∧
        Grammar.IsFieldType (text.extract start ending) ∧
        ∀ before after, fieldType (before ++ text.drop start ++ after) before.length =
          .ok (before.length + (ending - start))) ∧
    (∀ type, Grammar.IsFieldType type → type <+: text.drop start →
      fieldType text start = .ok (start + type.length)) ∧
    (∀ type other, Grammar.IsFieldType type → Grammar.IsFieldType other →
      type <+: text.drop start → other <+: text.drop start → type.length = other.length) ∧
    pastParameters text start = passed (readParameters start (text.drop start)) ∧
    WellFounded (fun next position => Advances text position next) ∧
    (∀ position, Relation.ReflTransGen (Advances text) start position →
      (start ≤ position ∧ (position = start ∨ position ≤ text.length)) ∧
        (∀ outside, round text position ≠ .error (.outside outside)) ∧
        ∀ next, Advances text position next → position < next ∧ next ≤ text.length) ∧
    ∃ position, Relation.ReflTransGen (Advances text) start position ∧
      ((round text position = .ok none ∧ ∃ types, parameters text start = .ok (types, position)) ∨
        ∃ error, round text position = .error error ∧ parameters text start = .error error) := by
  have hcomplete : ∀ type, Grammar.IsFieldType type → type <+: text.drop start →
      fieldType text start = .ok (start + type.length) := by
    rintro type htype ⟨rest, hdrop⟩
    obtain ⟨value, rfl⟩ := Grammar.isFieldType_iff.mp htype
    exact fieldType_eq_ok_iff.mpr ⟨value, rest, hdrop.symm, rfl⟩
  refine ⟨fieldType_eq text start, fieldType_ne_outside text start, ?_, hcomplete, ?_,
    pastParameters_eq text start, wellFounded_advances text, ?_, exists_last_round text start⟩
  · intro ending hending
    obtain ⟨type, rest, hdrop, rfl⟩ := fieldType_eq_ok_iff.mp hending
    obtain ⟨hlt, hle⟩ := lt_and_le_length_of_drop hdrop
    refine ⟨hlt, hle, ?_, ?_⟩
    · rw [extract_of_chars hdrop]
      exact Grammar.isFieldType_iff.mpr ⟨type, rfl⟩
    · intro before after
      rw [hdrop, Nat.add_sub_cancel_left, List.append_assoc, List.append_assoc]
      exact fieldType_append before type (rest ++ after)
  · intro type other htype hother hbegins hbegins'
    -- Both types are what is scanned here, so they end at one place.
    have hboth := (hcomplete type htype hbegins).symm.trans (hcomplete other hother hbegins')
    have hending := Except.ok.inj hboth
    omega
  · intro position hreached
    exact ⟨le_of_reached hreached, round_ne_outside text position, fun next h => h.lt_and_le⟩

end Scan
end CallSites
