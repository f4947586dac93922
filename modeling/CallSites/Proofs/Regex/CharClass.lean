/-
  CallSites.Proofs.Regex.CharClass

  What escapes, named classes and classes in brackets are read as. Each has its grammar, and its
  reader finds exactly what the grammar says.
-/
import CallSites.Proofs.Regex.Reader

namespace CallSites.Regex

variable {front rest text whole : List Char} {used : Nat}

/-! ## Hexadecimal code points -/

/-- A code point in hexadecimal: two digits, or any number of them between braces. -/
inductive HexNumber : List Char → Nat → Prop
  | pair {first second : Char} : isHex first = true → isHex second = true →
    HexNumber [first, second] (hexNumeral [first, second])
  | braced {digits : List Char} : digits ≠ [] → (∀ c ∈ digits, isHex c = true) →
    hexNumeral digits ≤ maxCodePoint →
    HexNumber ('\x7b' :: (digits ++ ['\x7d'])) (hexNumeral digits)

/-- More digits make no smaller number. -/
theorem le_foldl_hexValue (value : Nat) (digits : List Char) :
    value ≤ digits.foldl (fun n c => n * 16 + hexValue c) value := by
  induction digits generalizing value with
  | nil => exact Nat.le_refl _
  | cons c digits ih =>
    have hstep := ih (value * 16 + hexValue c)
    rw [List.foldl_cons]
    omega

theorem overflowAt?_eq_none_iff {value : Nat} {digits : List Char}
    (hvalue : value ≤ maxCodePoint) :
    overflowAt? value digits = none ↔
      digits.foldl (fun n c => n * 16 + hexValue c) value ≤ maxCodePoint := by
  induction digits generalizing value with
  | nil => simp [overflowAt?, hvalue]
  | cons c digits ih =>
    rw [overflowAt?, List.foldl_cons]
    split
    · next hover =>
      have hle := le_foldl_hexValue (value * 16 + hexValue c) digits
      refine iff_of_false (by simp) ?_
      omega
    · next hwithin =>
      rw [Option.map_eq_none_iff]
      exact ih (Nat.le_of_not_lt hwithin)

theorem overflowAt?_zero_eq_none_iff {digits : List Char} :
    overflowAt? 0 digits = none ↔ hexNumeral digits ≤ maxCodePoint :=
  overflowAt?_eq_none_iff (Nat.zero_le _)

theorem HexNumber.exists_of_readHex {found : Nat} (h : readHex text = .ok (found, used)) :
    ∃ front rest, text = front ++ rest ∧ used = front.length ∧ HexNumber front found := by
  unfold readHex at h
  split at h
  · cases h
  · cases h
  · next rest _ =>
    simp only [drop_length_takeWhile] at h
    split at h
    · cases h
    · cases h
    · next c after hnone hafter =>
      split at h
      · next hclosed =>
        obtain ⟨rfl, hne⟩ := hclosed
        cases h
        have hrest := List.takeWhile_append_dropWhile (p := isHex) (l := rest)
        rw [hafter] at hrest
        have hnumber := overflowAt?_zero_eq_none_iff.mp hnone
        refine ⟨_, after, ?_, ?_, .braced hne (fun c => List.mem_takeWhile_imp) hnumber⟩
        · rw [List.cons_append, List.append_assoc, List.singleton_append, hrest]
        · simp
      · cases h
  · cases h
  · next first second rest _ =>
    split at h
    · next hhex =>
      cases h
      rw [Bool.and_eq_true] at hhex
      exact ⟨[first, second], rest, rfl, rfl, .pair hhex.1 hhex.2⟩
    · cases h

theorem HexNumber.readHex_append {found : Nat} (h : HexNumber front found) :
    readHex (front ++ rest) = .ok (found, front.length) := by
  cases h with
  | @pair first second hfirst hsecond =>
    have hbrace : first ≠ '\x7b' := by
      rintro rfl
      cases hfirst
    show readHex (first :: second :: rest) = _
    simp [readHex, hfirst, hsecond]
  | @braced digits hne hdigits hle =>
    have hbrace : ∀ c ∈ ('\x7d' :: rest).head?, isHex c = false := by
      rintro c ⟨⟩
      rfl
    -- The digits end at the brace, which is none.
    have hrun := takeWhile_append_of_head hdigits hbrace
    have hdrop : (digits ++ '\x7d' :: rest).drop digits.length = '\x7d' :: rest := List.drop_left
    have hshape : readHex ('\x7b' :: (digits ++ ['\x7d']) ++ rest) =
        readHex ('\x7b' :: (digits ++ '\x7d' :: rest)) := by
      simp
    rw [hshape, readHex]
    · simp [hrun, hdrop, overflowAt?_zero_eq_none_iff.mpr hle, hne]
    · simp

theorem reads_readHex : Reads readHex fun front _ code => HexNumber front code where
  sound := HexNumber.exists_of_readHex
  complete := HexNumber.readHex_append

/-! ## Escapes -/

/-- The letters that name a character behind a backslash, with its code point. -/
def escapeLetters : List (Char × Nat) :=
  [('a', 0x7), ('t', 0x9), ('n', 0xA), ('v', 0xB), ('f', 0xC), ('r', 0xD)]

/-- The letters that have a meaning behind a backslash as the code point of one character. -/
def escapeNames : List Char := ['x', 'a', 't', 'n', 'v', 'f', 'r']

/-- What follows a backslash for one code point. -/
inductive Escape : List Char → List Char → Nat → Prop
  | letter {rest : List Char} {c : Char} {code : Nat} :
    (c, code) ∈ escapeLetters → Escape [c] rest code
  | hex {front rest : List Char} {code : Nat} :
    HexNumber front code → Escape ('x' :: front) rest code
  /-- Up to three octal digits. One alone is a zero, and fewer than three are all there are. -/
  | octal {rest digits : List Char} : digits ≠ [] → IsRun isOctal 3 digits rest →
    (digits.length = 1 → digits = ['0']) → Escape digits rest (octalNumeral digits)
  /-- A character of ASCII that is no letter and no digit stands for itself. -/
  | sign {rest : List Char} {c : Char} : c.toNat < 0x80 → c.isAlphanum = false →
    Escape [c] rest c.toNat

theorem isAlphanum_of_isOctal {c : Char} (h : isOctal c = true) : c.isAlphanum = true := by
  simp only [isOctal, Bool.and_eq_true, decide_eq_true_iff, Char.le_def,
    UInt32.le_iff_toNat_le] at h
  have hdigit : c.isDigit = true := by
    simp only [Char.isDigit, Bool.and_eq_true, decide_eq_true_iff, ge_iff_le,
      UInt32.le_iff_toNat_le]
    have hseven : ('7' : Char).val.toNat ≤ ('9' : Char).val.toNat := by decide
    exact ⟨h.1, Nat.le_trans h.2 hseven⟩
  rw [Char.isAlphanum, hdigit, Bool.or_true]

theorem not_isAlpha_of_isOctal {c : Char} (h : isOctal c = true) : c.isAlpha = false := by
  simp only [isOctal, Bool.and_eq_true, decide_eq_true_iff, Char.le_def,
    UInt32.le_iff_toNat_le] at h
  have hseven : ('7' : Char).val.toNat < ('A' : Char).val.toNat := by decide
  have hupper : ('A' : Char).val.toNat < ('a' : Char).val.toNat := by decide
  simp only [Char.isAlpha, Char.isUpper, Char.isLower, Bool.or_eq_false_iff, Bool.and_eq_false_iff,
    decide_eq_false_iff_not, ge_iff_le, UInt32.le_iff_toNat_le]
  omega

theorem isAlpha_of_mem_escapeNames {c : Char} (h : c ∈ escapeNames) : c.isAlpha = true := by
  simp only [escapeNames, List.mem_cons, List.not_mem_nil, or_false] at h
  rcases h with rfl | rfl | rfl | rfl | rfl | rfl | rfl <;> rfl

/-- What is read at a character that names no other. -/
theorem readEscape_of_notMem {c : Char} (h : c ∉ escapeNames) (rest : List Char) :
    readEscape (c :: rest) =
      if isOctal c then
        let digits := c :: (rest.takeWhile isOctal).take 2
        if c ≠ '0' ∧ digits.length = 1 then .error (.escape ['\\', c])
        else .ok (octalNumeral digits, digits.length)
      else if c.toNat < 0x80 && !c.isAlphanum then .ok (c.toNat, 1)
      else .error (.escape ['\\', c]) := by
  rw [readEscape] <;> rintro rfl <;> exact h (by decide)

theorem Escape.exists_of_readEscape {found : Nat} (h : readEscape text = .ok (found, used)) :
    ∃ front rest, text = front ++ rest ∧ used = front.length ∧ Escape front rest found := by
  cases text with
  | nil => cases h
  | cons c rest =>
    by_cases hname : c ∈ escapeNames
    · simp only [escapeNames, List.mem_cons, List.not_mem_nil, or_false] at hname
      rcases hname with rfl | hname
      · obtain ⟨front, rest, number, rfl, hnumber, ⟨⟩⟩ :=
          reads_readHex.map_eq_ok_iff.mp h
        exact ⟨'x' :: front, rest, rfl, rfl, .hex hnumber⟩
      · rcases hname with rfl | rfl | rfl | rfl | rfl | rfl <;>
          cases h <;> exact ⟨[_], rest, rfl, rfl, .letter (by decide)⟩
    · rw [readEscape_of_notMem hname] at h
      split at h
      · next hoctal =>
        simp only at h
        split at h
        · cases h
        · next hone =>
          cases h
          -- The first digit and at most two more.
          obtain ⟨after, hrest, hrun⟩ := exists_isRun isOctal 2 rest
          refine ⟨_, after, congrArg (c :: ·) hrest, rfl,
            .octal (List.cons_ne_nil _ _) (hrun.cons hoctal) fun hlength => ?_⟩
          have hzero : c = '0' := by
            by_contra hne
            exact hone ⟨hne, hlength⟩
          rw [hzero, List.length_eq_zero_iff.mp (Nat.succ.inj hlength)]
      · split at h
        · next hsign =>
          cases h
          rw [Bool.and_eq_true, decide_eq_true_iff, Bool.not_eq_true'] at hsign
          exact ⟨[c], rest, rfl, rfl, .sign hsign.1 hsign.2⟩
        · cases h

theorem Escape.readEscape_append {found : Nat} (h : Escape front rest found) :
    readEscape (front ++ rest) = .ok (found, front.length) := by
  cases h with
  | letter hletter =>
    simp only [escapeLetters, List.mem_cons, Prod.mk.injEq, List.not_mem_nil, or_false] at hletter
    rcases hletter with h | h | h | h | h | h <;> obtain ⟨rfl, rfl⟩ := h <;> rfl
  | hex hnumber =>
    exact reads_readHex.map_eq_ok_iff.mpr ⟨_, _, _, rfl, hnumber, rfl⟩
  | octal hne hrun hone =>
    obtain ⟨c, digits, rfl⟩ := List.exists_cons_of_ne_nil hne
    have hc : isOctal c = true := hrun.all c List.mem_cons_self
    have hname : c ∉ escapeNames := by
      intro hmem
      have halpha := isAlpha_of_mem_escapeNames hmem
      rw [not_isAlpha_of_isOctal hc] at halpha
      cases halpha
    have hzero : ¬ (c ≠ '0' ∧ (c :: digits).length = 1) := by
      rintro ⟨hne, hlength⟩
      exact hne (List.cons.inj (hone hlength)).1
    rw [List.cons_append, readEscape_of_notMem hname, if_pos hc]
    simp only [hrun.tail.take_takeWhile, if_neg hzero]
  | @sign _ c hascii hsign =>
    have hname : c ∉ escapeNames := by
      intro hmem
      rw [Char.isAlphanum, isAlpha_of_mem_escapeNames hmem] at hsign
      cases hsign
    have hoctal : isOctal c = false := by
      rw [← Bool.not_eq_true]
      intro hoctal
      rw [isAlphanum_of_isOctal hoctal] at hsign
      cases hsign
    rw [List.singleton_append, readEscape_of_notMem hname, hoctal, if_neg Bool.false_ne_true]
    simp [hascii, hsign]

theorem reads_readEscape : Reads readEscape Escape where
  sound := Escape.exists_of_readEscape
  complete := Escape.readEscape_append

/-- The letters among the escapes all have a name. -/
theorem Escape.mem_of_isAlpha {c : Char} {code : Nat} (h : Escape (c :: front) rest code)
    (hc : c.isAlpha = true) : c ∈ escapeNames := by
  cases h with
  | letter hletter =>
    have hmem := List.mem_map_of_mem (f := Prod.fst) hletter
    exact List.mem_cons_of_mem _ hmem
  | hex hnumber => exact List.mem_cons_self
  | octal hne hrun hone =>
    rw [not_isAlpha_of_isOctal (hrun.all c List.mem_cons_self)] at hc
    cases hc
  | sign hascii hsign =>
    rw [Char.isAlphanum, hc] at hsign
    cases hsign

theorem Escape.ne_of_isAlpha {c d : Char} {code : Nat} (h : Escape (c :: front) rest code)
    (hd : d.isAlpha = true) (hname : d ∉ escapeNames) : c ≠ d := by
  rintro rfl
  exact hname (h.mem_of_isAlpha hd)

theorem Escape.exists_cons {code : Nat} (h : Escape front rest code) :
    ∃ c text, front = c :: text := by
  cases h with
  | letter hletter => exact ⟨_, _, rfl⟩
  | hex hnumber => exact ⟨_, _, rfl⟩
  | octal hne hrun hone => exact List.exists_cons_of_ne_nil hne
  | sign hascii hsign => exact ⟨_, _, rfl⟩

/-! ## Named classes -/

/-- What a Unicode name stands for behind `\p` or `\P`. Only one of an uppercase letter and a `^`
    before the name takes the complement. -/
inductive UnicodeName (letter : Char) : List Char → ClassItem → Prop
  | plain {name : List Char} {set : CharSet} : name.head? ≠ some '^' →
    unicodeSet? (String.ofList name) = some set → UnicodeName letter name ⟨set, letter == 'P'⟩
  | complement {name : List Char} {set : CharSet} :
    unicodeSet? (String.ofList name) = some set →
    UnicodeName letter ('^' :: name) ⟨set, letter == 'p'⟩

/-- A Unicode class, from after the letter on: a name of one character, or between braces. -/
inductive UnicodeClass (letter : Char) : List Char → ClassItem → Prop
  | short {c : Char} {item : ClassItem} : c ≠ '\x7b' → UnicodeName letter [c] item →
    UnicodeClass letter [c] item
  | braced {name : List Char} {item : ClassItem} : '\x7d' ∉ name → UnicodeName letter name item →
    UnicodeClass letter ('\x7b' :: (name ++ ['\x7d'])) item

theorem readUnicodeName_eq_ok_iff {letter : Char} {name text : List Char}
    {item : ClassItem} :
    readUnicodeName letter name text = .ok (item, used) ↔
      UnicodeName letter name item ∧ used = text.length := by
  refine ⟨?_, ?_⟩
  · intro h
    unfold readUnicodeName at h
    split at h
    next negated bare hbare =>
    split at h
    · next set hset =>
      cases h
      split at hbare
      · cases hbare
        exact ⟨.complement hset, rfl⟩
      · next hplain =>
        cases hbare
        refine ⟨.plain ?_ hset, rfl⟩
        cases name with
        | nil => simp
        | cons c name => exact fun heq => hplain name (by rw [Option.some.inj heq])
    · cases h
  · rintro ⟨h, rfl⟩
    unfold readUnicodeName
    cases h with
    | plain hhead hset =>
      split
      next negated bare hbare =>
      split at hbare
      · exact absurd rfl hhead
      · cases hbare
        rw [hset]
    | complement hset => simp only [hset]

theorem reads_readUnicodeSet (letter : Char) :
    Reads (readUnicodeSet letter) fun front _ item => UnicodeClass letter front item where
  sound {text found used} h := by
    unfold readUnicodeSet at h
    split at h
    · cases h
    · next rest =>
      split at h
      · cases h
      · next name hname =>
        obtain ⟨hitem, rfl⟩ := readUnicodeName_eq_ok_iff.mp h
        obtain ⟨hnot, rest, rfl⟩ := of_before?_eq_some hname
        exact ⟨_, rest, by simp, rfl, .braced hnot hitem⟩
    · next c rest hc =>
      obtain ⟨hitem, rfl⟩ := readUnicodeName_eq_ok_iff.mp h
      exact ⟨[c], rest, rfl, rfl, .short hc hitem⟩
  complete {front rest found} h := by
    cases h with
    | @short c _ hc hitem =>
      rw [List.singleton_append, readUnicodeSet]
      · exact readUnicodeName_eq_ok_iff.mpr ⟨hitem, rfl⟩
      · exact hc
    | @braced name _ hnot hitem =>
      have htext : '\x7b' :: (name ++ ['\x7d']) ++ rest = '\x7b' :: (name ++ '\x7d' :: rest) := by
        simp
      rw [htext, readUnicodeSet, before?_append hnot]
      exact readUnicodeName_eq_ok_iff.mpr ⟨hitem, rfl⟩

theorem isAlpha_of_letterItem? {c : Char} {item : ClassItem} (h : letterItem? c = some item) :
    c.isAlpha = true := by
  unfold letterItem? at h
  split at h
  · next set hset =>
    unfold letterSet? at hset
    split at hset <;> cases hset <;> rfl
  · split at h
    · next hupper => rw [Char.isAlpha, hupper, Bool.true_or]
    · cases h

theorem letterItem?_of_escape {c : Char} {code : Nat} (h : Escape (c :: front) rest code) :
    letterItem? c = none := by
  rw [Option.eq_none_iff_forall_ne_some]
  intro item hitem
  have hmem := h.mem_of_isAlpha (isAlpha_of_letterItem? hitem)
  simp only [escapeNames, List.mem_cons, List.not_mem_nil, or_false] at hmem
  rcases hmem with rfl | rfl | rfl | rfl | rfl | rfl | rfl <;> cases hitem

theorem beforeClassEnd?_append {name : List Char} (h : ':' ∉ name) (rest : List Char) :
    beforeClassEnd? (name ++ ':' :: ']' :: rest) = some name := by
  induction name with
  | nil => exact if_pos ⟨rfl, rfl⟩
  | cons c name ih =>
    have hne : c ≠ ':' := fun heq => h (heq ▸ List.mem_cons_self)
    have hrest := ih fun hmem => h (List.mem_cons_of_mem _ hmem)
    rw [List.cons_append, beforeClassEnd?, if_neg fun hc => hne hc.1, hrest]
    rfl

theorem of_beforeClassEnd?_eq_some {name : List Char} (h : beforeClassEnd? text = some name) :
    ∃ rest, text = name ++ ':' :: ']' :: rest := by
  induction text generalizing name with
  | nil => cases h
  | cons c text ih =>
    rw [beforeClassEnd?] at h
    split at h
    · next hc =>
      cases h
      obtain ⟨rest, rfl⟩ := List.head?_eq_some_iff.mp hc.2
      exact ⟨rest, by rw [hc.1]; rfl⟩
    · obtain ⟨tail, htail, rfl⟩ := Option.map_eq_some_iff.mp h
      obtain ⟨rest, rfl⟩ := ih htail
      exact ⟨rest, rfl⟩

theorem isAlpha_of_asciiSet? {name : List Char} {set : CharSet}
    (h : asciiSet? (String.ofList name) = some set) : ∀ c ∈ name, c.isAlpha = true := by
  unfold asciiSet? at h
  split at h
  all_goals first
    | next heq =>
      have hname := congrArg String.toList heq
      rw [String.toList_ofList] at hname
      rw [hname]
      exact List.all_eq_true.mp rfl
    | cases h

theorem beforeClassEnd?_eq_none_iff :
    beforeClassEnd? text = none ↔ ¬ [':', ']'] <:+: text := by
  induction text with
  | nil => simp [beforeClassEnd?]
  | cons c text ih =>
    rw [beforeClassEnd?, List.infix_cons_iff, List.cons_prefix_cons]
    split
    · next hc =>
      obtain ⟨rest, rfl⟩ := List.head?_eq_some_iff.mp hc.2
      simp [hc.1]
    · next hc =>
      rw [Option.map_eq_none_iff, ih, not_or, iff_and_self]
      intro _ hfront
      refine hc ⟨hfront.1.symm, ?_⟩
      obtain ⟨rest, rfl⟩ := hfront.2
      rfl

theorem readAsciiSet?_ok_iff {item : ClassItem} :
    readAsciiSet? text = some (.ok (item, used)) ↔
      ∃ name rest set, asciiSet? (String.ofList name) = some set ∧
        (text = name ++ ':' :: ']' :: rest ∧ item = ⟨set, false⟩ ∧ used = name.length + 4 ∨
          text = '^' :: (name ++ ':' :: ']' :: rest) ∧ item = ⟨set, true⟩ ∧
            used = name.length + 5) := by
  unfold readAsciiSet?
  rw [Option.map_eq_some_iff]
  refine ⟨?_, ?_⟩
  · rintro ⟨inner, hinner, h⟩
    obtain ⟨rest, rfl⟩ := of_beforeClassEnd?_eq_some hinner
    split at h
    next negated name hname =>
    split at h
    · next set hset =>
      cases h
      split at hname
      · cases hname
        exact ⟨name, rest, set, hset, .inr ⟨rfl, rfl, rfl⟩⟩
      · cases hname
        exact ⟨inner, rest, set, hset, .inl ⟨rfl, rfl, rfl⟩⟩
    · cases h
  · rintro ⟨name, rest, set, hset, ⟨rfl, rfl, rfl⟩ | ⟨rfl, rfl, rfl⟩⟩
    -- No name of an ASCII class holds a colon, so the first `:]` is the one that ends it.
    · have halpha := isAlpha_of_asciiSet? hset
      have hnot : ':' ∉ name := fun hmem => absurd (halpha _ hmem) (by decide)
      refine ⟨name, beforeClassEnd?_append hnot rest, ?_⟩
      split
      next negated bare hbare =>
      split at hbare
      · exact absurd (halpha '^' List.mem_cons_self) (by decide)
      · cases hbare
        rw [hset]
    · have halpha := isAlpha_of_asciiSet? hset
      have hnot : ':' ∉ '^' :: name := by
        intro hmem
        rcases List.mem_cons.mp hmem with heq | hmem
        · cases heq
        · exact absurd (halpha _ hmem) (by decide)
      refine ⟨'^' :: name, beforeClassEnd?_append hnot rest, ?_⟩
      simp only [hset]
      rfl

theorem readAsciiSet?_eq_none_iff :
    readAsciiSet? text = none ↔ ¬ [':', ']'] <:+: text := by
  rw [readAsciiSet?, Option.map_eq_none_iff, beforeClassEnd?_eq_none_iff]

/-! ## Items of a class -/

/-- One end of a range. -/
inductive ClassChar : List Char → List Char → Nat → Prop
  | plain {rest : List Char} {c : Char} : c ≠ '\\' → ClassChar [c] rest c.toNat
  | escape {front rest : List Char} {code : Nat} : Escape front rest code →
    ClassChar ('\\' :: front) rest code

theorem reads_readClassChar (whole : List Char) : Reads (readClassChar whole) ClassChar where
  sound {text found used} h := by
    unfold readClassChar at h
    split at h
    · cases h
    · obtain ⟨front, rest, code, rfl, hescape, ⟨⟩⟩ := reads_readEscape.map_eq_ok_iff.mp h
      exact ⟨'\\' :: front, rest, rfl, rfl, .escape hescape⟩
    · next c rest hc =>
      cases h
      exact ⟨[c], rest, rfl, rfl, .plain hc⟩
  complete {front rest found} h := by
    cases h with
    | @plain _ c hc =>
      rw [List.singleton_append, readClassChar]
      · rfl
      · exact hc
    | escape hescape =>
      exact reads_readEscape.map_eq_ok_iff.mpr ⟨_, _, _, rfl, hescape, rfl⟩

theorem ClassChar.exists_cons {code : Nat} (h : ClassChar front rest code) :
    ∃ c text, front = c :: text := by
  cases h with
  | plain hc => exact ⟨_, _, rfl⟩
  | escape hescape => exact ⟨_, _, rfl⟩

/-- A single character, or a range from one character to another that is no smaller. A hyphen makes
    a range unless the closing bracket or the end of the text follows it. -/
inductive ClassRange : List Char → List Char → ClassItem → Prop
  | single {front rest : List Char} {code : Nat} : ClassChar front rest code →
    (∀ c after, rest = '-' :: c :: after → c = ']') →
    ClassRange front rest ⟨.single code, false⟩
  | range {first last rest : List Char} {low high : Nat} :
    ClassChar first ('-' :: (last ++ rest)) low → last.head? ≠ some ']' →
    ClassChar last rest high → low ≤ high →
    ClassRange (first ++ '-' :: last) rest ⟨.range low high, false⟩

theorem ClassRange.exists_of_readClassRange {found : ClassItem}
    (h : readClassRange whole text = .ok (found, used)) :
    ∃ front rest, text = front ++ rest ∧ used = front.length ∧ ClassRange front rest found := by
  obtain ⟨⟨low, length⟩, hread, h⟩ := bind_eq_ok_iff.mp h
  obtain ⟨first, after, rfl, rfl, hfirst⟩ := (reads_readClassChar whole).sound hread
  simp only [List.drop_left] at h
  split at h
  · next c after =>
    split at h
    · next hc =>
      cases h
      refine ⟨first, _, rfl, rfl, .single hfirst fun d after heq => ?_⟩
      rw [← (List.cons.inj (List.cons.inj heq).2).1, hc]
    · next hc =>
      obtain ⟨⟨high, lengthLast⟩, hreadLast, h⟩ := bind_eq_ok_iff.mp h
      obtain ⟨last, rest, htext, rfl, hlast⟩ :=
        (reads_readClassChar whole).sound hreadLast
      simp only at h
      split at h
      · cases h
      · next hle =>
        cases h
        refine ⟨first ++ '-' :: last, rest, ?_, ?_, .range ?_ ?_ hlast (Nat.le_of_not_lt hle)⟩
        · rw [htext, List.append_assoc, List.cons_append]
        · simp only [List.length_append, List.length_cons]
          omega
        · rwa [← htext]
        · obtain ⟨d, tail, rfl⟩ := hlast.exists_cons
          rw [← (List.cons.inj htext).1]
          exact fun heq => hc (Option.some.inj heq)
  · next hsingle =>
    cases h
    exact ⟨first, after, rfl, rfl, .single hfirst fun c rest heq => absurd heq (hsingle c rest)⟩

theorem ClassRange.readClassRange_append {found : ClassItem} (h : ClassRange front rest found) :
    readClassRange whole (front ++ rest) = .ok (found, front.length) := by
  cases h with
  | single hchar hsingle =>
    unfold readClassRange
    rw [(reads_readClassChar whole).complete hchar, ok_bind]
    simp only [List.drop_left]
    split
    · next c after =>
      rw [if_pos (hsingle c after rfl)]
      rfl
    · rfl
  | @range first last _ low high hfirst hhead hlast hle =>
    -- What follows the hyphen is no closing bracket, so the reader goes on to a range.
    obtain ⟨c, tail, rfl⟩ := hlast.exists_cons
    have hc : c ≠ ']' := fun heq => hhead (congrArg some heq)
    have hreadFirst := (reads_readClassChar whole).complete hfirst
    have hreadLast := (reads_readClassChar whole).complete hlast
    rw [List.append_assoc, List.cons_append]
    unfold readClassRange
    rw [hreadFirst, ok_bind]
    simp only [List.drop_left, List.cons_append] at hreadLast ⊢
    rw [if_neg hc, hreadLast, ok_bind]
    have hlength : first.length + 1 + (c :: tail).length =
        (first ++ '-' :: c :: tail).length := by
      simp only [List.length_append, List.length_cons]
      omega
    simp only [if_neg (Nat.not_lt.mpr hle), hlength]
    rfl

theorem reads_readClassRange (whole : List Char) : Reads (readClassRange whole) ClassRange where
  sound := ClassRange.exists_of_readClassRange
  complete := ClassRange.readClassRange_append

/-- A text that begins like an ASCII class, and in which the end of one follows somewhere. -/
def OpensAscii (text : List Char) : Prop :=
  ∃ after, text = '[' :: ':' :: after ∧ [':', ']'] <:+: after

/-- An item of a class: a named class, or a range or single character that opens none. -/
inductive ClassPart : List Char → List Char → ClassItem → Prop
  | ascii {name rest : List Char} {set : CharSet} : asciiSet? (String.ofList name) = some set →
    ClassPart ('[' :: ':' :: (name ++ [':', ']'])) rest ⟨set, false⟩
  | notAscii {name rest : List Char} {set : CharSet} : asciiSet? (String.ofList name) = some set →
    ClassPart ('[' :: ':' :: '^' :: (name ++ [':', ']'])) rest ⟨set, true⟩
  | unicode {letter : Char} {front rest : List Char} {item : ClassItem} : letter ∈ ['p', 'P'] →
    UnicodeClass letter front item → ClassPart ('\\' :: letter :: front) rest item
  | letter {c : Char} {rest : List Char} {item : ClassItem} : letterItem? c = some item →
    ClassPart ['\\', c] rest item
  | range {front rest : List Char} {item : ClassItem} : ¬ OpensAscii (front ++ rest) →
    ClassRange front rest item → ClassPart front rest item

theorem ClassRange.exists_classChar {item : ClassItem} (h : ClassRange front rest item) :
    ∃ first after code, ClassChar first after code ∧ front ++ rest = first ++ after := by
  cases h with
  | single hchar hsingle => exact ⟨_, _, _, hchar, rfl⟩
  | range hfirst hhead hlast hle =>
    exact ⟨_, _, _, hfirst, by rw [List.append_assoc, List.cons_append]⟩

theorem ClassRange.escape_of_eq_cons {c : Char} {item : ClassItem}
    (h : ClassRange front rest item) (htext : front ++ rest = '\\' :: c :: text) :
    ∃ first after code, Escape (c :: first) after code := by
  obtain ⟨first, after, code, hchar, heq⟩ := h.exists_classChar
  rw [htext] at heq
  cases hchar with
  | plain hc => exact absurd (List.cons.inj heq).1.symm hc
  | escape hescape =>
    obtain ⟨d, first, rfl⟩ := hescape.exists_cons
    obtain ⟨rfl, -⟩ := List.cons.inj (List.cons.inj heq).2
    exact ⟨_, _, _, hescape⟩

theorem readClassItem_of_range (h : ¬ OpensAscii text)
    (hescape : ∀ c after, text = '\\' :: c :: after → letterItem? c = none ∧ c ≠ 'p' ∧ c ≠ 'P') :
    readClassItem whole text = readClassRange whole text := by
  unfold readClassItem
  split
  · next after =>
    have hnone : readAsciiSet? after = none := by
      rw [readAsciiSet?, beforeClassEnd?_eq_none_iff.mpr fun hend => h ⟨after, rfl, hend⟩]
      rfl
    rw [hnone, Option.getD_none]
  · next c after =>
    obtain ⟨hitem, hp, hP⟩ := hescape c after rfl
    rw [if_neg fun hc => hc.1.elim hp hP, hitem]
  · rfl

theorem ClassPart.exists_of_ascii {item : ClassItem}
    (h : readAsciiSet? text = some (.ok (item, used))) :
    ∃ front rest, '[' :: ':' :: text = front ++ rest ∧ used = front.length ∧
      ClassPart front rest item := by
  obtain ⟨name, rest, set, hset, ⟨rfl, rfl, rfl⟩ | ⟨rfl, rfl, rfl⟩⟩ := readAsciiSet?_ok_iff.mp h
  · exact ⟨_, rest, by simp, by simp, .ascii hset⟩
  · exact ⟨_, rest, by simp, by simp, .notAscii hset⟩

theorem ClassPart.exists_of_range {item : ClassItem}
    (h : readClassRange whole text = .ok (item, used)) (hopens : ¬ OpensAscii text) :
    ∃ front rest, text = front ++ rest ∧ used = front.length ∧ ClassPart front rest item := by
  obtain ⟨front, rest, rfl, rfl, hrange⟩ := (reads_readClassRange whole).sound h
  exact ⟨front, rest, rfl, rfl, .range hopens hrange⟩

theorem ClassPart.exists_of_readClassItem {found : ClassItem}
    (h : readClassItem whole text = .ok (found, used)) :
    ∃ front rest, text = front ++ rest ∧ used = front.length ∧ ClassPart front rest found := by
  unfold readClassItem at h
  split at h
  · next after =>
    -- Without a `:]` the bracket is an ordinary character of a range.
    cases hascii : readAsciiSet? after with
    | none =>
      rw [hascii, Option.getD_none] at h
      refine ClassPart.exists_of_range h ?_
      rintro ⟨rest, heq, hend⟩
      rw [← (List.cons.inj (List.cons.inj heq).2).2] at hend
      exact readAsciiSet?_eq_none_iff.mp hascii hend
    | some outcome =>
      rw [hascii, Option.getD_some] at h
      exact ClassPart.exists_of_ascii (h ▸ hascii)
  · next c after =>
    split at h
    · next hletter =>
      obtain ⟨front, rest, item, rfl, hclass, ⟨⟩⟩ :=
        (reads_readUnicodeSet c).map_eq_ok_iff.mp h
      refine ⟨'\\' :: c :: front, rest, rfl, rfl, .unicode ?_ hclass⟩
      exact List.mem_cons.mpr (hletter.1.imp_right List.mem_singleton.mpr)
    · split at h
      · next item hitem =>
        cases h
        exact ⟨['\\', c], after, rfl, rfl, .letter hitem⟩
      · exact ClassPart.exists_of_range h (by rintro ⟨rest, heq, -⟩; cases heq)
  · next hascii hescape =>
    refine ClassPart.exists_of_range h ?_
    rintro ⟨rest, rfl, -⟩
    exact hascii rest rfl

theorem ClassPart.readClassItem_append {found : ClassItem} (h : ClassPart front rest found) :
    readClassItem whole (front ++ rest) = .ok (found, front.length) := by
  cases h with
  | @ascii name _ set hset =>
    have hread := readAsciiSet?_ok_iff.mpr ⟨name, rest, set, hset, .inl ⟨rfl, rfl, rfl⟩⟩
    simp [readClassItem, hread]
  | @notAscii name _ set hset =>
    have hread := readAsciiSet?_ok_iff.mpr ⟨name, rest, set, hset, .inr ⟨rfl, rfl, rfl⟩⟩
    simp [readClassItem, hread]
  | @unicode letter front _ item hletter hclass =>
    have hletter : letter = 'p' ∨ letter = 'P' := by simpa using hletter
    have hread : readUnicodeSet letter (front ++ rest) = .ok (found, front.length) :=
      (reads_readUnicodeSet letter).complete hclass
    have hne : front ++ rest ≠ [] := by
      cases hclass <;> exact List.cons_ne_nil _ _
    show readClassItem whole ('\\' :: letter :: (front ++ rest)) = _
    simp [readClassItem, hletter, hne, hread, Except.map]
  | @letter c _ item hitem =>
    have hletter : ¬ ((c = 'p' ∨ c = 'P') ∧ rest ≠ []) := by
      rintro ⟨rfl | rfl, -⟩ <;> cases hitem
    simp [readClassItem, hletter, hitem]
  | range hopens hrange =>
    rw [readClassItem_of_range hopens]
    · exact (reads_readClassRange whole).complete hrange
    · intro c after htext
      obtain ⟨first, rest, code, hescape⟩ := hrange.escape_of_eq_cons htext
      exact ⟨letterItem?_of_escape hescape, hescape.ne_of_isAlpha rfl (by decide),
        hescape.ne_of_isAlpha rfl (by decide)⟩

theorem reads_readClassItem (whole : List Char) : Reads (readClassItem whole) ClassPart where
  sound := ClassPart.exists_of_readClassItem
  complete := ClassPart.readClassItem_append

/-! ## Classes -/

/-- The items of a class up to the bracket that closes it. A closing bracket that comes first is an
    ordinary character. -/
inductive ClassItems : Bool → List Char → List Char → List ClassItem → Prop
  | close {rest : List Char} : ClassItems false [']'] rest []
  | item {first : Bool} {front more rest : List Char} {item : ClassItem} {items : List ClassItem} :
    (front.head? = some ']' → first = true) → ClassPart front (more ++ rest) item →
    ClassItems false more rest items → ClassItems first (front ++ more) rest (item :: items)

/-- A class, from after its opening bracket on. -/
inductive BracketClass : List Char → List Char → ClassSet → Prop
  | plain {front rest : List Char} {items : List ClassItem} : front.head? ≠ some '^' →
    ClassItems true front rest items → BracketClass front rest ⟨items, false⟩
  | complement {front rest : List Char} {items : List ClassItem} :
    ClassItems true front rest items → BracketClass ('^' :: front) rest ⟨items, true⟩

theorem ClassPart.exists_cons {item : ClassItem} (h : ClassPart front rest item) :
    ∃ c text, front = c :: text := by
  cases h with
  | ascii hset => exact ⟨_, _, rfl⟩
  | notAscii hset => exact ⟨_, _, rfl⟩
  | unicode hletter hclass => exact ⟨_, _, rfl⟩
  | letter hitem => exact ⟨_, _, rfl⟩
  | range hopens hrange =>
    cases hrange with
    | single hchar hsingle => exact hchar.exists_cons
    | range hfirst hhead hlast hle =>
      obtain ⟨c, text, rfl⟩ := hfirst.exists_cons
      exact ⟨_, _, rfl⟩

/-- The characters of an item already read are passed over. -/
theorem readClassItems_length_append (whole front rest : List Char) :
    readClassItems whole front.length false (front ++ rest) =
      (readClassItems whole 0 false rest).map fun found => (found.1, found.2 + front.length) := by
  induction front with
  | nil => cases hread : readClassItems whole 0 false rest <;> simp [hread, Except.map]
  | cons c front ih =>
    rw [List.cons_append, List.length_cons, readClassItems, ih]
    cases hread : readClassItems whole 0 false rest <;> simp [Except.map, Nat.add_assoc]

theorem readClassItems_of_item {first : Bool} {c : Char} {item : ClassItem}
    (hc : ¬ (c = ']' ∧ first = false))
    (hitem : readClassItem whole (c :: (text ++ rest)) = .ok (item, (c :: text).length)) :
    readClassItems whole 0 first (c :: (text ++ rest)) =
      (readClassItems whole 0 false rest).map fun found =>
        (item :: found.1, found.2 + (c :: text).length) := by
  rw [readClassItems, if_neg hc, hitem]
  simp only [List.length_cons, Nat.add_sub_cancel, readClassItems_length_append]
  cases hread : readClassItems whole 0 false rest <;> simp [Except.map, Nat.add_assoc]

theorem ClassItems.exists_of_readClassItems {first : Bool} {found : List ClassItem}
    (h : readClassItems whole 0 first text = .ok (found, used)) :
    ∃ front rest, text = front ++ rest ∧ used = front.length ∧
      ClassItems first front rest found := by
  -- By the length of what is left, since reading goes on behind the item.
  induction hlength : text.length using Nat.strong_induction_on
    generalizing first text found used with
  | _ length ih =>
    cases text with
    | nil => cases h
    | cons c text =>
      by_cases hc : c = ']' ∧ first = false
      · obtain ⟨rfl, rfl⟩ := hc
        cases h
        exact ⟨[']'], text, rfl, rfl, .close⟩
      · cases hread : readClassItem whole (c :: text) with
        | error error =>
          rw [readClassItems, if_neg hc, hread] at h
          cases h
        | ok result =>
          obtain ⟨item, usedItem⟩ := result
          obtain ⟨front, rest, htext, rfl, hitem⟩ :=
            (reads_readClassItem whole).sound hread
          obtain ⟨d, front, rfl⟩ := hitem.exists_cons
          obtain ⟨rfl, heq⟩ := List.cons.inj htext
          have heq : text = front ++ rest := heq
          subst heq
          rw [readClassItems_of_item hc hread, map_eq_ok_iff] at h
          obtain ⟨⟨items, usedRest⟩, hrest, heq⟩ := h
          obtain ⟨rfl, rfl⟩ := Prod.mk.inj heq
          have hshorter : rest.length < length := by
            rw [← hlength, List.length_cons, List.length_append]
            omega
          obtain ⟨more, rest, rfl, rfl, hitems⟩ := ih _ hshorter hrest rfl
          refine ⟨(c :: front) ++ more, rest, ?_, ?_, .item ?_ hitem hitems⟩
          · rw [List.append_assoc, List.cons_append]
          · rw [List.length_append, Nat.add_comm]
          · intro hhead
            rw [← Bool.not_eq_false]
            exact fun hfirst => hc ⟨Option.some.inj hhead, hfirst⟩

theorem ClassItems.readClassItems_append {first : Bool} {found : List ClassItem}
    (h : ClassItems first front rest found) :
    readClassItems whole 0 first (front ++ rest) = .ok (found, front.length) := by
  induction h with
  | close => rfl
  | @item first front more rest item items hfirst hitem _ ih =>
    have hread := (reads_readClassItem whole).complete hitem
    obtain ⟨c, text, rfl⟩ := hitem.exists_cons
    have hc : ¬ (c = ']' ∧ first = false) := by
      rintro ⟨rfl, rfl⟩
      cases hfirst rfl
    rw [List.append_assoc, List.cons_append, readClassItems_of_item hc hread, ih,
      List.length_append, Nat.add_comm]
    rfl

theorem reads_readClassItems (whole : List Char) (first : Bool) :
    Reads (readClassItems whole 0 first) (ClassItems first) where
  sound := ClassItems.exists_of_readClassItems
  complete := ClassItems.readClassItems_append

theorem ClassItems.exists_cons {first : Bool} {items : List ClassItem}
    (h : ClassItems first front rest items) : ∃ c text, front = c :: text := by
  cases h with
  | close => exact ⟨_, _, rfl⟩
  | item hfirst hitem hitems =>
    obtain ⟨c, text, rfl⟩ := hitem.exists_cons
    exact ⟨_, _, rfl⟩

theorem reads_readClass : Reads readClass BracketClass where
  sound {text found used} h := by
    unfold readClass at h
    split at h
    · next rest =>
      obtain ⟨front, rest, items, rfl, hitems, ⟨⟩⟩ :=
        (reads_readClassItems _ true).map_eq_ok_iff.mp h
      exact ⟨'^' :: front, rest, rfl, rfl, .complement hitems⟩
    · next hplain =>
      obtain ⟨front, rest, items, rfl, hitems, ⟨⟩⟩ :=
        (reads_readClassItems _ true).map_eq_ok_iff.mp h
      refine ⟨front, rest, rfl, rfl, .plain ?_ hitems⟩
      intro hhead
      obtain ⟨text, rfl⟩ := List.head?_eq_some_iff.mp hhead
      exact hplain (text ++ rest) rfl
  complete {front rest found} h := by
    cases h with
    | plain hhead hitems =>
      obtain ⟨c, text, rfl⟩ := hitems.exists_cons
      rw [List.cons_append, readClass]
      · exact (reads_readClassItems _ true).map_eq_ok_iff.mpr ⟨_, _, _, rfl, hitems, rfl⟩
      · rintro _ heq
        exact hhead (congrArg some (List.cons.inj heq).1)
    | complement hitems =>
      exact (reads_readClassItems _ true).map_eq_ok_iff.mpr ⟨_, _, _, rfl, hitems, rfl⟩

end CallSites.Regex
