/-
  CallSites.Text.Basic

  Text as a sequence of code points. A document can name any code point by its number, so beside
  characters a text may hold halves of surrogate pairs that stand alone. Such a text has no
  encoding in bytes.
-/

namespace CallSites

/-! ## Code points -/

/-- A code point of a text. -/
inductive Symbol where
  | char (c : Char)
  /-- Half of a surrogate pair, without the other half. -/
  | surrogate (offset : Fin 0x800)
  deriving DecidableEq, Repr

namespace Symbol

instance : Coe Char Symbol where
  coe := char

/-- The number of the code point. -/
def toNat : Symbol → Nat
  | .char c => c.toNat
  | .surrogate offset => 0xD800 + offset.val

/-- The code point with this number, if there is one. -/
def ofNat? (code : Nat) : Option Symbol :=
  if code.isValidChar then some (.char (Char.ofNat code))
  else if h : code - 0xD800 < 0x800 then some (.surrogate ⟨code - 0xD800, h⟩)
  else none

/-- The character, if the code point is one. -/
def toChar? : Symbol → Option Char
  | .char c => some c
  | .surrogate _ => none

/-- Changes a character; a lone surrogate stays as it is. -/
def mapChar (f : Char → Char) : Symbol → Symbol
  | .char c => .char (f c)
  | .surrogate offset => .surrogate offset

@[simp] theorem mapChar_char (f : Char → Char) (c : Char) : mapChar f c = f c := rfl

theorem ofNat?_toNat (symbol : Symbol) : ofNat? symbol.toNat = some symbol := by
  cases symbol with
  | char c =>
    have hvalid : (char c).toNat.isValidChar := c.valid
    rw [ofNat?, if_pos hvalid]
    exact congrArg (fun c => some (char c)) (Char.ofNat_toNat c)
  | surrogate offset =>
    have hlt := offset.isLt
    have hinvalid : ¬ (surrogate offset).toNat.isValidChar := by
      simp only [toNat, Nat.isValidChar]
      omega
    have hoffset : (surrogate offset).toNat - 0xD800 = offset.val := by
      simp only [toNat]
      omega
    rw [ofNat?, if_neg hinvalid]
    simp only [hoffset, hlt, dif_pos]

/-- Code points are told apart by their numbers. -/
theorem toNat_injective {a b : Symbol} (h : a.toNat = b.toNat) : a = b := by
  have hread := congrArg ofNat? h
  rw [ofNat?_toNat, ofNat?_toNat] at hread
  exact Option.some.inj hread

end Symbol

/-! ## Texts -/

/-- A text. -/
structure Text where
  ofList ::
  toList : List Symbol
  deriving Repr

namespace Text

/-! ### Equality -/

theorem toList_injective {first second : Text} (h : first.toList = second.toList) :
    first = second := by
  obtain ⟨symbols⟩ := first
  exact congrArg ofList h

theorem toList_inj {first second : Text} : first.toList = second.toList ↔ first = second :=
  ⟨toList_injective, congrArg toList⟩

instance : BEq Text where
  beq first second := first.toList == second.toList

theorem beq_iff {first second : Text} : (first == second) = true ↔ first = second := by
  show (first.toList == second.toList) = true ↔ first = second
  rw [beq_iff_eq, toList_inj]

instance : LawfulBEq Text where
  eq_of_beq := beq_iff.mp
  rfl := beq_iff.mpr rfl

instance : DecidableEq Text := fun _ _ => decidable_of_iff _ beq_iff

/-! ### Operations -/

/-- The text of characters. -/
def ofString (text : String) : Text :=
  ⟨text.toList.map .char⟩

instance : Coe String Text where
  coe := ofString

instance : Append Text where
  append first second := ⟨first.toList ++ second.toList⟩

/-- The texts one after the other. -/
def join (texts : List Text) : Text :=
  ⟨texts.flatMap toList⟩

/-- The number of code points. -/
def length (text : Text) : Nat :=
  text.toList.length

/-- Whether code points come before others or are the same: the first difference decides. -/
def listAtMost : List Symbol → List Symbol → Bool
  | [], _ => true
  | _ :: _, [] => false
  | a :: first, b :: second => a.toNat < b.toNat || (a == b && listAtMost first second)

/-- Whether the text comes before another or is the same. -/
def isAtMost (first second : Text) : Bool :=
  listAtMost first.toList second.toList

/-- Changes every character. -/
def mapChars (f : Char → Char) (text : Text) : Text :=
  ⟨text.toList.map (Symbol.mapChar f)⟩

@[simp] theorem toList_ofList (symbols : List Symbol) : (ofList symbols).toList = symbols := rfl

@[simp] theorem ofList_toList (text : Text) : ofList text.toList = text := rfl

@[simp] theorem toList_ofString (text : String) :
    (ofString text).toList = text.toList.map .char := rfl

@[simp] theorem toList_append (first second : Text) :
    (first ++ second).toList = first.toList ++ second.toList := rfl

@[simp] theorem toList_join (texts : List Text) : (join texts).toList = texts.flatMap toList := rfl

@[simp] theorem toList_mapChars (f : Char → Char) (text : Text) :
    (text.mapChars f).toList = text.toList.map (Symbol.mapChar f) := rfl

theorem length_toList (text : Text) : text.toList.length = text.length := rfl

@[simp] theorem length_append (first second : Text) :
    (first ++ second).length = first.length + second.length :=
  List.length_append

@[simp] theorem length_mapChars (f : Char → Char) (text : Text) :
    (text.mapChars f).length = text.length :=
  List.length_map _

@[simp] theorem length_ofString (text : String) : (ofString text).length = text.length := by
  rw [length, toList_ofString, List.length_map, String.length_toList]

theorem append_assoc (first second third : Text) :
    first ++ second ++ third = first ++ (second ++ third) :=
  toList_injective (List.append_assoc _ _ _)

theorem append_right_inj (first : Text) {second third : Text} :
    first ++ second = first ++ third ↔ second = third := by
  simp only [← toList_inj, toList_append, List.append_right_inj]

theorem append_left_inj (last : Text) {first second : Text} :
    first ++ last = second ++ last ↔ first = second := by
  simp only [← toList_inj, toList_append, List.append_left_inj]

@[simp] theorem ofString_append (first second : String) :
    ofString (first ++ second) = ofString first ++ ofString second := by
  apply toList_injective
  simp

@[simp] theorem mapChars_ofString (f : Char → Char) (text : String) :
    (ofString text).mapChars f = ofString (text.map f) := by
  apply toList_injective
  simp [String.toList_map]

theorem ofString_injective {first second : String} (h : ofString first = ofString second) :
    first = second := by
  have hlist : first.toList.map Symbol.char = second.toList.map Symbol.char :=
    congrArg toList h
  exact String.toList_injective (List.map_inj_right (fun _ _ => Symbol.char.inj) |>.mp hlist)

@[simp] theorem ofString_inj {first second : String} :
    ofString first = ofString second ↔ first = second :=
  ⟨ofString_injective, congrArg ofString⟩

/-! ### Order -/

theorem listAtMost_cons_iff {a b : Symbol} {first second : List Symbol} :
    listAtMost (a :: first) (b :: second) = true ↔
      a.toNat < b.toNat ∨ a = b ∧ listAtMost first second = true := by
  rw [listAtMost, Bool.or_eq_true, Bool.and_eq_true, decide_eq_true_iff, beq_iff_eq]

theorem listAtMost_trans {first second third : List Symbol} (h : listAtMost first second = true)
    (h' : listAtMost second third = true) : listAtMost first third = true := by
  induction first generalizing second third with
  | nil => rfl
  | cons a first ih =>
    cases second with
    | nil => cases h
    | cons b second =>
      cases third with
      | nil => cases h'
      | cons c third =>
        rw [listAtMost_cons_iff] at h h' ⊢
        rcases h with hlt | ⟨rfl, h⟩
        · rcases h' with hlt' | ⟨rfl, -⟩
          · exact .inl (Nat.lt_trans hlt hlt')
          · exact .inl hlt
        · rcases h' with hlt' | ⟨rfl, h'⟩
          · exact .inl hlt'
          · exact .inr ⟨rfl, ih h h'⟩

theorem listAtMost_total (first second : List Symbol) :
    listAtMost first second = true ∨ listAtMost second first = true := by
  induction first generalizing second with
  | nil => exact .inl rfl
  | cons a first ih =>
    cases second with
    | nil => exact .inr rfl
    | cons b second =>
      rw [listAtMost_cons_iff, listAtMost_cons_iff]
      rcases Nat.lt_trichotomy a.toNat b.toNat with hlt | heq | hlt
      · exact .inl (.inl hlt)
      · obtain rfl := Symbol.toNat_injective heq
        exact (ih second).imp (fun h => .inr ⟨rfl, h⟩) fun h => .inr ⟨rfl, h⟩
      · exact .inr (.inl hlt)

theorem listAtMost_antisymm {first second : List Symbol} (h : listAtMost first second = true)
    (h' : listAtMost second first = true) : first = second := by
  induction first generalizing second with
  | nil =>
    cases second with
    | nil => rfl
    | cons b second => cases h'
  | cons a first ih =>
    cases second with
    | nil => cases h
    | cons b second =>
      rw [listAtMost_cons_iff] at h h'
      rcases h with hlt | ⟨rfl, h⟩
      · rcases h' with hlt' | ⟨rfl, -⟩ <;> omega
      · rw [ih h (h'.resolve_left (Nat.lt_irrefl _)).2]

theorem isAtMost_trans {first second third : Text} (h : first.isAtMost second = true)
    (h' : second.isAtMost third = true) : first.isAtMost third = true :=
  listAtMost_trans h h'

theorem isAtMost_total (first second : Text) :
    first.isAtMost second = true ∨ second.isAtMost first = true :=
  listAtMost_total first.toList second.toList

theorem isAtMost_antisymm {first second : Text} (h : first.isAtMost second = true)
    (h' : second.isAtMost first = true) : first = second :=
  toList_injective (listAtMost_antisymm h h')

/-! ### Characters -/

/-- The characters of the text, if it holds nothing else. -/
def toString? (text : Text) : Option String :=
  (text.toList.mapM Symbol.toChar?).map String.ofList

private theorem mapM_toChar?_eq_some_iff {symbols : List Symbol} {chars : List Char} :
    symbols.mapM Symbol.toChar? = some chars ↔ symbols = chars.map .char := by
  induction symbols generalizing chars with
  | nil => cases chars <;> simp
  | cons symbol symbols ih =>
    cases symbol with
    | char c =>
      cases chars with
      | nil => simp [List.mapM_cons, Symbol.toChar?, Option.bind_eq_some_iff]
      | cons d chars =>
        simpa [List.mapM_cons, Symbol.toChar?, Option.bind_eq_some_iff, ih] using and_comm
    | surrogate offset => cases chars <;> simp [List.mapM_cons, Symbol.toChar?]

theorem toString?_eq_some_iff {text : Text} {string : String} :
    text.toString? = some string ↔ text = string := by
  rw [toString?, Option.map_eq_some_iff]
  refine ⟨?_, ?_⟩
  · rintro ⟨chars, hchars, rfl⟩
    apply toList_injective
    rw [mapM_toChar?_eq_some_iff.mp hchars, toList_ofString, String.toList_ofList]
  · rintro rfl
    exact ⟨string.toList, mapM_toChar?_eq_some_iff.mpr rfl, String.ofList_toList⟩

@[simp] theorem toString?_ofString (text : String) : (ofString text).toString? = some text :=
  toString?_eq_some_iff.mpr rfl

end Text

end CallSites
