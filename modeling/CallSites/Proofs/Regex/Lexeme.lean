/-
  CallSites.Proofs.Regex.Lexeme

  What a pattern falls into. The grammar of lexemes says, for each way in which a part of a pattern
  can begin, how far the part goes and what pieces it stands for. A pattern is read without an error
  exactly if it falls into lexemes, and then as their pieces.
-/
import CallSites.Proofs.Regex.CharClass

namespace CallSites.Regex

variable {front rest text : List Char} {used : Nat}

/-! ## Groups -/

/-- The letters of the flags. -/
def flagLetters : List (Char × Flag) :=
  [('i', .caseless), ('m', .lines), ('s', .dotAll), ('U', .lazy)]

/-- The changes that flags make, behind a hyphen or not, and behind nothing else since it or not.
    A hyphen switches the flags after it off; there is one at most, and it does not come last. -/
inductive Switches : Bool → Bool → List Char → List FlagChange → Prop
  | done {off : Bool} : Switches off false [] []
  | flag {off pending : Bool} {c : Char} {flag : Flag} {letters : List Char}
    {changes : List FlagChange} : (c, flag) ∈ flagLetters → Switches off false letters changes →
    Switches off pending (c :: letters) ((flag, !off) :: changes)
  | hyphen {pending : Bool} {letters : List Char} {changes : List FlagChange} :
    Switches true true letters changes → Switches false pending ('-' :: letters) changes

/-- What the character after the flags makes of their changes. -/
inductive FlagEnd : Char → List FlagChange → Piece → Prop
  | group {changes : List FlagChange} : FlagEnd ':' changes (.openGroup changes)
  | set {changes : List FlagChange} : FlagEnd ')' changes (.setFlags changes)

/-- The front of a group, from after its parenthesis on. -/
inductive GroupFront : List Char → List Char → Piece → Prop
  | plain {rest : List Char} : rest.head? ≠ some '?' → GroupFront [] rest (.openGroup [])
  | named {opening name rest : List Char} : opening ∈ [['?', 'P', '<'], ['?', '<']] → name ≠ [] →
    (∀ c ∈ name, groupNameSet.contains c.toNat = true) →
    GroupFront (opening ++ (name ++ ['>'])) rest (.openGroup [])
  | flags {letters rest : List Char} {c : Char} {changes : List FlagChange} {piece : Piece} :
    Switches false false letters changes → FlagEnd c changes piece →
    GroupFront ('?' :: (letters ++ [c])) rest piece

variable {off pending : Bool} {seen letters : List Char} {before changes : List FlagChange}
  {piece : Piece}

theorem Switches.exists_of_readFlags
    (h : readFlags seen off pending before text = .ok (piece, used)) :
    ∃ letters c rest changes, text = letters ++ c :: rest ∧
      used = seen.length + letters.length ∧ Switches off pending letters changes ∧
      FlagEnd c (before.reverse ++ changes) piece := by
  induction text generalizing seen off pending before with
  | nil => cases h
  | cons c text ih =>
    unfold readFlags at h
    dsimp only at h
    split at h
    -- The four letters, each of which goes on behind it.
    iterate 4
      obtain ⟨letters, d, rest, changes, rfl, rfl, hswitches, hend⟩ := ih h
      rw [List.reverse_cons, List.append_assoc, List.singleton_append] at hend
      refine ⟨_ :: letters, d, rest, _, rfl, ?_, .flag (by decide) hswitches, hend⟩
      simp only [List.length_cons]
      omega
    · split at h
      · cases h
      · next hoff =>
        obtain ⟨letters, d, rest, changes, rfl, rfl, hswitches, hend⟩ := ih h
        rw [Bool.not_eq_true] at hoff
        subst hoff
        refine ⟨'-' :: letters, d, rest, _, rfl, ?_, .hyphen hswitches, hend⟩
        simp only [List.length_cons]
        omega
    -- The colon and the parenthesis end the flags, unless a hyphen still wants one.
    iterate 2
      split at h
      · cases h
      · next hpending =>
        cases h
        rw [Bool.not_eq_true] at hpending
        subst hpending
        refine ⟨[], _, text, [], rfl, rfl, .done, ?_⟩
        rw [List.append_nil]
        constructor
    · cases h

/-- Along the letters. The changes that were found before are kept backwards. -/
theorem Switches.readFlags_append {c : Char} (h : Switches off pending letters changes)
    (hend : FlagEnd c (before.reverse ++ changes) piece) (rest : List Char) :
    readFlags seen off pending before (letters ++ c :: rest) =
      .ok (piece, seen.length + letters.length) := by
  induction h generalizing seen before with
  | done =>
    rw [List.append_nil] at hend
    cases hend <;> simp [readFlags]
  | @flag off pending d flag letters changes hflag _ ih =>
    have hread : readFlags seen off pending before (d :: (letters ++ c :: rest)) =
        readFlags (d :: seen) off false ((flag, !off) :: before) (letters ++ c :: rest) := by
      simp only [flagLetters, List.mem_cons, Prod.mk.injEq, List.not_mem_nil, or_false] at hflag
      rcases hflag with h | h | h | h <;> obtain ⟨rfl, rfl⟩ := h <;> rfl
    rw [List.cons_append, hread, ih, List.length_cons, List.length_cons]
    · rw [Nat.add_right_comm, Nat.add_assoc]
    · rwa [List.reverse_cons, List.append_assoc, List.singleton_append]
  | @hyphen pending letters changes _ ih =>
    have hread : readFlags seen false pending before ('-' :: (letters ++ c :: rest)) =
        readFlags ('-' :: seen) true true before (letters ++ c :: rest) := rfl
    rw [List.cons_append, hread, ih hend, List.length_cons, List.length_cons, Nat.add_right_comm,
      Nat.add_assoc]

/-- No delimiter of a group occurs in a name. -/
theorem ne_of_groupNameSet {c d : Char} (hc : groupNameSet.contains c.toNat = true)
    (hd : groupNameSet.contains d.toNat = false) : c ≠ d := by
  rintro rfl
  rw [hc] at hd
  cases hd

theorem not_groupNameSet_delimiters :
    groupNameSet.contains '>'.toNat = false ∧ groupNameSet.contains '='.toNat = false ∧
      groupNameSet.contains '!'.toNat = false := by
  decide +kernel

theorem readGroupName_eq_ok_iff {opening : List Char} :
    readGroupName opening text = .ok (piece, used) ↔
      ∃ name rest, text = name ++ '>' :: rest ∧ name ≠ [] ∧
        (∀ c ∈ name, groupNameSet.contains c.toNat = true) ∧ piece = .openGroup [] ∧
        used = opening.length + name.length := by
  unfold readGroupName
  refine ⟨?_, ?_⟩
  · intro h
    split at h
    · cases h
    · next name hname =>
      obtain ⟨hnot, rest, rfl⟩ := of_before?_eq_some hname
      dsimp only at h
      split at h
      · next hall =>
        cases h
        refine ⟨name, rest, rfl, hall.1, List.all_eq_true.mp hall.2, rfl, ?_⟩
        simp only [List.length_append, List.length_singleton, Nat.add_sub_cancel]
      · cases h
  · rintro ⟨name, rest, rfl, hne, hall, rfl, rfl⟩
    have hnot : '>' ∉ name := fun hmem =>
      ne_of_groupNameSet (hall _ hmem) not_groupNameSet_delimiters.1 rfl
    rw [before?_append hnot]
    dsimp only
    rw [if_pos ⟨hne, List.all_eq_true.mpr hall⟩]
    simp only [List.length_append, List.length_singleton, Nat.add_sub_cancel]

theorem GroupFront.exists_of_name {opening : List Char}
    (hopening : opening ∈ [['?', 'P', '<'], ['?', '<']])
    (h : readGroupName ('(' :: opening) text = .ok (piece, used)) :
    ∃ front rest, opening ++ text = front ++ rest ∧ used = front.length ∧
      GroupFront front rest piece := by
  obtain ⟨name, rest, rfl, hne, hall, rfl, rfl⟩ := readGroupName_eq_ok_iff.mp h
  refine ⟨_, rest, ?_, ?_, .named hopening hne hall⟩
  · rw [List.append_assoc, List.append_assoc, List.singleton_append]
  · simp only [List.length_append, List.length_cons, List.length_nil]
    omega

/-- Neither flags nor what ends them begin like any other group. -/
theorem Switches.notMem_of_eq_cons {c d : Char} (h : Switches false false letters changes)
    (hend : FlagEnd c changes piece) (htext : letters ++ c :: rest = d :: text) :
    d ∉ ['=', '!', '<', 'P'] := by
  cases h with
  | done =>
    obtain ⟨rfl, -⟩ := List.cons.inj htext
    cases hend <;> decide
  | flag hflag hswitches =>
    obtain ⟨rfl, -⟩ := List.cons.inj htext
    simp only [flagLetters, List.mem_cons, Prod.mk.injEq, List.not_mem_nil, or_false] at hflag
    rcases hflag with h | h | h | h <;> obtain ⟨rfl, rfl⟩ := h <;> decide
  | hyphen hswitches =>
    obtain ⟨rfl, -⟩ := List.cons.inj htext
    decide

theorem GroupFront.exists_of_readGroup {found : Piece} (h : readGroup text = .ok (found, used)) :
    ∃ front rest, text = front ++ rest ∧ used = front.length ∧ GroupFront front rest found := by
  unfold readGroup at h
  split at h
  -- Looking ahead or behind is refused.
  iterate 4 cases h
  · exact GroupFront.exists_of_name List.mem_cons_self h
  · exact GroupFront.exists_of_name (List.mem_cons_of_mem _ List.mem_cons_self) h
  · obtain ⟨letters, c, rest, changes, rfl, rfl, hswitches, hend⟩ := Switches.exists_of_readFlags h
    refine ⟨_, rest, ?_, ?_, .flags hswitches hend⟩
    · rw [List.cons_append, List.append_assoc, List.singleton_append]
    · simp only [List.length_append, List.length_cons, List.length_nil]
      omega
  · next hplain =>
    cases h
    refine ⟨[], text, rfl, rfl, .plain ?_⟩
    intro hhead
    obtain ⟨rest, rfl⟩ := List.head?_eq_some_iff.mp hhead
    exact hplain rest rfl

theorem GroupFront.readGroup_append {found : Piece} (h : GroupFront front rest found) :
    readGroup (front ++ rest) = .ok (found, front.length) := by
  cases h with
  | plain hhead =>
    rw [List.nil_append, readGroup]
    · rfl
    all_goals
      intros
      subst_vars
      exact hhead rfl
  | @named opening name _ hopening hne hall =>
    obtain ⟨c, name, rfl⟩ := List.exists_cons_of_ne_nil hne
    have hread : readGroupName ('(' :: opening) (c :: (name ++ '>' :: rest)) =
        .ok (.openGroup [], opening.length + 1 + (name.length + 1)) :=
      readGroupName_eq_ok_iff.mpr ⟨c :: name, rest, rfl, hne, hall, rfl, rfl⟩
    have hlength : (opening ++ (c :: name ++ ['>'])).length =
        opening.length + 1 + (name.length + 1) := by
      simp only [List.length_append, List.length_cons, List.length_nil]
      omega
    rw [hlength, ← hread, List.append_assoc, List.append_assoc]
    obtain ⟨-, heq, hnot⟩ := not_groupNameSet_delimiters
    have hc := hall c List.mem_cons_self
    simp only [List.mem_cons, List.not_mem_nil, or_false] at hopening
    rcases hopening with rfl | rfl
    · rfl
    -- What looks behind begins like a name, but no name begins like that.
    · show readGroup ('?' :: '<' :: c :: (name ++ '>' :: rest)) = _
      rw [readGroup]
      · exact fun _ _ h => absurd h (ne_of_groupNameSet hc heq)
      · exact fun _ _ h => absurd h (ne_of_groupNameSet hc hnot)
  | @flags letters _ c changes _ hswitches hend =>
    have hread : readFlags ['?', '('] false false [] (letters ++ c :: rest) =
        .ok (found, 2 + letters.length) := hswitches.readFlags_append hend rest
    have hstart {d : Char} {text : List Char} (htext : letters ++ c :: rest = d :: text) :=
      hswitches.notMem_of_eq_cons hend htext
    rw [List.cons_append, List.append_assoc, List.singleton_append, readGroup, hread]
    · simp only [List.length_append, List.length_cons, List.length_nil]
      congr 2
      omega
    all_goals exact fun _ _ htext => hstart htext (by decide)

theorem reads_readGroup : Reads readGroup GroupFront where
  sound := GroupFront.exists_of_readGroup
  complete := GroupFront.readGroup_append

/-! ## Repetitions -/

/-- A number: its first digit is a zero only if it is the only one, and the number is below a
    thousand million. -/
structure Number (digits : List Char) (n : Nat) : Prop where
  ne_nil : digits ≠ []
  isDigit : ∀ c ∈ digits, c.isDigit = true
  zero : digits.head? = some '0' → digits.length = 1
  value : n = decimalNumeral digits
  small : n < 1000000000

/-- Counts of a repetition, from after the brace that opens them up to the one that closes them. -/
inductive Counts : List Char → Nat → Option Nat → Prop
  | exactly {digits : List Char} {n : Nat} : Number digits n →
    Counts (digits ++ ['\x7d']) n (some n)
  | atLeast {digits : List Char} {n : Nat} : Number digits n →
    Counts (digits ++ [',', '\x7d']) n none
  | between {first last : List Char} {least most : Nat} : Number first least → Number last most →
    Counts (first ++ ',' :: (last ++ ['\x7d'])) least (some most)

theorem readNumber?_eq_some_iff {n : Nat} :
    readNumber? text = some (n, used) ↔
      ∃ digits rest, text = digits ++ rest ∧ used = digits.length ∧ Number digits n ∧
        ∀ c ∈ rest.head?, c.isDigit = false := by
  unfold readNumber?
  dsimp only
  refine ⟨?_, ?_⟩
  · intro h
    split at h
    · cases h
    · next hnumber =>
      cases h
      obtain ⟨hne, hzero, hsmall⟩ : _ ∧ _ ∧ _ := by simpa only [not_or] using hnumber
      have hone (hhead : (text.takeWhile Char.isDigit).head? = some '0') :
          (text.takeWhile Char.isDigit).length = 1 := by
        have hpos := List.length_pos_of_ne_nil hne
        have hmany : ¬ 1 < (text.takeWhile Char.isDigit).length :=
          fun hlong => hzero ⟨hhead, hlong⟩
        omega
      exact ⟨_, _, (List.takeWhile_append_dropWhile (p := Char.isDigit)).symm, rfl,
        ⟨hne, fun c => List.mem_takeWhile_imp, hone, rfl, Nat.lt_of_not_le hsmall⟩,
        head?_dropWhile⟩
  · rintro ⟨digits, rest, rfl, rfl, ⟨hne, hall, hzero, rfl, hsmall⟩, hrest⟩
    rw [takeWhile_append_of_head hall hrest, if_neg]
    rintro (hnil | ⟨hhead, hlong⟩ | hlarge)
    · exact hne hnil
    · exact absurd (hzero hhead) (Nat.ne_of_gt hlong)
    · omega

theorem readNumber?_append {digits : List Char} {n : Nat} (h : Number digits n)
    (hrest : ∀ c ∈ rest.head?, c.isDigit = false) :
    readNumber? (digits ++ rest) = some (n, digits.length) :=
  readNumber?_eq_some_iff.mpr ⟨digits, rest, rfl, rfl, h, hrest⟩

variable {least : Nat} {most : Option Nat}

theorem Counts.exists_of_readCounts? (h : readCounts? text = some (least, most, used)) :
    ∃ front rest, text = front ++ rest ∧ used = front.length ∧ Counts front least most := by
  unfold readCounts? at h
  split at h
  · cases h
  · next n length hread =>
    obtain ⟨digits, after, rfl, rfl, hnumber, -⟩ := readNumber?_eq_some_iff.mp hread
    rw [List.drop_left] at h
    split at h
    · next rest =>
      cases h
      exact ⟨_, rest, by simp, by simp, .exactly hnumber⟩
    · next rest =>
      cases h
      exact ⟨_, rest, by simp, by simp, .atLeast hnumber⟩
    · next rest =>
      split at h
      · cases h
      · next m lengthLast hreadLast =>
        obtain ⟨last, after, rfl, rfl, hlast, -⟩ := readNumber?_eq_some_iff.mp hreadLast
        rw [List.getElem?_append_right (Nat.le_refl _), Nat.sub_self,
          ← List.head?_eq_getElem?] at h
        split at h
        · next hclosed =>
          cases h
          obtain ⟨after, rfl⟩ := List.head?_eq_some_iff.mp hclosed
          refine ⟨_, after, by simp, ?_, .between hnumber hlast⟩
          simp only [List.length_append, List.length_cons, List.length_nil]
          omega
        · cases h
    · cases h

theorem Counts.readCounts?_append (h : Counts front least most) :
    readCounts? (front ++ rest) = some (least, most, front.length) := by
  unfold readCounts?
  cases h with
  | @exactly digits _ hnumber =>
    have hread : readNumber? (digits ++ '\x7d' :: rest) = some (least, digits.length) :=
      readNumber?_append hnumber (by simp)
    simp [hread]
  | @atLeast digits _ hnumber =>
    have hread : readNumber? (digits ++ ',' :: '\x7d' :: rest) = some (least, digits.length) :=
      readNumber?_append hnumber (by simp)
    simp [hread]
  | @between first last _ most hfirst hlast =>
    have hread : readNumber? (first ++ ',' :: (last ++ '\x7d' :: rest)) =
        some (least, first.length) := readNumber?_append hfirst (by simp)
    have hreadLast : readNumber? (last ++ '\x7d' :: rest) = some (most, last.length) :=
      readNumber?_append hlast (by simp)
    -- The brace does not follow the comma, since a digit does.
    obtain ⟨c, last, rfl⟩ := List.exists_cons_of_ne_nil hlast.ne_nil
    have hc : c ≠ '\x7d' := by
      rintro rfl
      cases hlast.isDigit _ List.mem_cons_self
    rw [List.cons_append] at hread hreadLast
    have htext : first ++ ',' :: (c :: last ++ ['\x7d']) ++ rest =
        first ++ ',' :: c :: (last ++ '\x7d' :: rest) := by
      simp
    rw [htext, hread]
    simp only [List.drop_left]
    split
    · next heq => cases heq
    · next heq => exact absurd (List.cons.inj (List.cons.inj heq).2).1 hc
    · next heq =>
      obtain ⟨-, rfl⟩ := List.cons.inj heq
      have hclosed : (c :: (last ++ '\x7d' :: rest))[(c :: last).length]? = some '\x7d' := by
        simp
      rw [hreadLast]
      dsimp only
      rw [if_pos hclosed]
      simp only [List.length_append, List.length_cons, List.length_nil]
      rfl
    · next hother => exact absurd rfl (hother _)

/-! ## Lexemes -/

/-- An operator that repeats, with its counts. -/
inductive Operator : List Char → Nat → Option Nat → Prop
  | star : Operator ['*'] 0 none
  | plus : Operator ['+'] 1 none
  | question : Operator ['?'] 0 (some 1)
  | counted {counts : List Char} {least : Nat} {most : Option Nat} : Counts counts least most →
    Operator ('\x7b' :: counts) least most

/-- The signs that are pieces by themselves. -/
def signs : List (Char × Piece) :=
  [(')', .closeGroup), ('|', .bar), ('^', .lineStart), ('$', .lineEnd), ('.', .anyChar)]

/-- The letters that are pieces behind a backslash. -/
def backslashLetters : List (Char × Piece) :=
  [('b', .assertion .wordBoundary), ('B', .assertion .notWordBoundary),
    ('A', .assertion .textStart), ('z', .assertion .textEnd), ('C', .anyByte)]

/-- The pieces that quoted text falls into. -/
def quotedPieces (text : List Char) : List Piece :=
  .quote :: text.map fun c => .literal c.toNat

/-- The characters at which a lexeme begins that stands for more than its character. -/
def specialCharacters : List Char :=
  ['(', ')', '|', '^', '$', '.', '[', '*', '+', '?', '\x7b', '\\']

/-- A part of a pattern that is read at once, the pattern after it, and the pieces that it falls
    into. -/
inductive Lexeme : List Char → List Char → List Piece → Prop
  | sign {c : Char} {piece : Piece} {rest : List Char} : (c, piece) ∈ signs →
    Lexeme [c] rest [piece]
  | group {front rest : List Char} {piece : Piece} : GroupFront front rest piece →
    Lexeme ('(' :: front) rest [piece]
  | bracket {front rest : List Char} {set : ClassSet} : BracketClass front rest set →
    Lexeme ('[' :: front) rest [.set set]
  | times {operator rest : List Char} {least : Nat} {most : Option Nat} :
    Operator operator least most → rest.head? ≠ some '?' →
    Lexeme operator rest [.times least most operator]
  /-- A question mark behind a repetition asks for few copies. -/
  | timesLazily {operator rest : List Char} {least : Nat} {most : Option Nat} :
    Operator operator least most →
    Lexeme (operator ++ ['?']) rest [.times least most (operator ++ ['?'])]
  /-- A brace that opens no counts is an ordinary character. -/
  | brace {rest : List Char} :
    (∀ front after least most, rest = front ++ after → ¬ Counts front least most) →
    Lexeme ['\x7b'] rest [.literal '\x7b'.toNat]
  | backslash {c : Char} {piece : Piece} {rest : List Char} : (c, piece) ∈ backslashLetters →
    Lexeme ['\\', c] rest [piece]
  | quoted {text rest : List Char} : ¬ ['\\', 'E'] <:+: text →
    Lexeme ('\\' :: 'Q' :: (text ++ ['\\', 'E'])) rest (quotedPieces text)
  /-- Quoted text may go on to the end of the pattern. -/
  | quotedToEnd {text : List Char} : ¬ ['\\', 'E'] <:+: text →
    Lexeme ('\\' :: 'Q' :: text) [] (quotedPieces text)
  | unicode {letter : Char} {front rest : List Char} {item : ClassItem} : letter ∈ ['p', 'P'] →
    UnicodeClass letter front item →
    Lexeme ('\\' :: letter :: front) rest [.set ⟨[item], false⟩]
  | letter {c : Char} {rest : List Char} {item : ClassItem} : letterItem? c = some item →
    Lexeme ['\\', c] rest [.set ⟨[item], false⟩]
  | escape {front rest : List Char} {code : Nat} : Escape front rest code →
    Lexeme ('\\' :: front) rest [.literal code]
  | literal {c : Char} {rest : List Char} : c ∉ specialCharacters →
    Lexeme [c] rest [.literal c.toNat]

/-- A pattern falls into pieces, lexeme by lexeme, up to the rest of it. -/
inductive Lexes : List Char → List Char → List Piece → Prop
  | done {rest : List Char} : Lexes rest rest []
  | lexeme {front text rest : List Char} {found more : List Piece} : Lexeme front text found →
    Lexes text rest more → Lexes (front ++ text) rest (found ++ more)

/-! ## Quoted text -/

theorem readQuoted_append (h : ¬ ['\\', 'E'] <:+: text) (rest : List Char) :
    readQuoted (text ++ '\\' :: 'E' :: rest) = (text, text.length + 2) := by
  induction text with
  | nil => rfl
  | cons c text ih =>
    rw [List.infix_cons_iff, not_or] at h
    rw [List.cons_append, readQuoted, ih h.2]
    · rfl
    · rintro after rfl heq
      cases text with
      | nil => cases heq
      | cons d text =>
        obtain ⟨rfl, -⟩ := List.cons.inj heq
        exact h.1 ⟨text, rfl⟩

theorem readQuoted_of_open (h : ¬ ['\\', 'E'] <:+: text) :
    readQuoted text = (text, text.length) := by
  induction text with
  | nil => rfl
  | cons c text ih =>
    rw [List.infix_cons_iff, not_or] at h
    rw [readQuoted, ih h.2]
    · rfl
    · rintro after rfl rfl
      exact h.1 ⟨after, rfl⟩

/-- Quoted text ends in front of the first `\E`, or nowhere. -/
theorem exists_quoted (text : List Char) :
    ¬ ['\\', 'E'] <:+: text ∨
      ∃ before after, text = before ++ '\\' :: 'E' :: after ∧ ¬ ['\\', 'E'] <:+: before := by
  induction text with
  | nil => exact .inl (by simp)
  | cons c text ih =>
    by_cases hfront : ['\\', 'E'] <+: c :: text
    · obtain ⟨after, hafter⟩ := hfront
      exact .inr ⟨[], after, hafter.symm, by simp⟩
    · rcases ih with hnone | ⟨before, after, rfl, hbefore⟩
      · refine .inl ?_
        rw [List.infix_cons_iff, not_or]
        exact ⟨hfront, hnone⟩
      · refine .inr ⟨c :: before, after, rfl, ?_⟩
        rw [List.infix_cons_iff, not_or]
        refine ⟨fun hlonger => hfront ?_, hbefore⟩
        exact hlonger.trans (List.prefix_append (c :: before) _)

/-! ## One lexeme -/

theorem Operator.exists_cons {operator : List Char} (h : Operator operator least most) :
    ∃ c text, operator = c :: text := by
  cases h <;> exact ⟨_, _, rfl⟩

theorem Lexeme.exists_of_timesPiece {c : Char} (h : Operator (c :: text) least most) :
    ∃ front after, text ++ rest = front ++ after ∧
      (timesPiece least most (c :: text) rest).2 = front.length ∧
      Lexeme (c :: front) after [(timesPiece least most (c :: text) rest).1] := by
  unfold timesPiece
  split
  · next after => exact ⟨text ++ ['?'], after, by simp, by simp, .timesLazily h⟩
  · next hplain =>
    refine ⟨text, rest, rfl, rfl, .times h ?_⟩
    intro hhead
    obtain ⟨after, rfl⟩ := List.head?_eq_some_iff.mp hhead
    exact hplain after rfl

theorem readPieces_of_operator {c : Char} (h : Operator (c :: text) least most)
    (rest : List Char) :
    readPieces c (text ++ rest) =
      .ok ([(timesPiece least most (c :: text) rest).1],
        (timesPiece least most (c :: text) rest).2) := by
  cases h with
  | star => rfl
  | plus => rfl
  | question => rfl
  | counted hcounts =>
    have hread : readCounts? (text ++ rest) = some (least, most, text.length) :=
      hcounts.readCounts?_append
    simp [readPieces, hread]

theorem Lexeme.exists_of_readBackslash {found : List Piece}
    (h : readBackslash text = .ok (found, used)) :
    ∃ front rest, text = front ++ rest ∧ used = front.length ∧
      Lexeme ('\\' :: front) rest found := by
  unfold readBackslash at h
  split at h
  iterate 5
    cases h
    exact ⟨[_], _, rfl, rfl, .backslash (by simp [backslashLetters])⟩
  · next rest =>
    rcases exists_quoted rest with hnone | ⟨before, after, rfl, hbefore⟩
    · rw [readQuoted_of_open hnone] at h
      cases h
      exact ⟨'Q' :: rest, [], by simp, rfl, .quotedToEnd hnone⟩
    · rw [readQuoted_append hbefore] at h
      cases h
      exact ⟨'Q' :: (before ++ ['\\', 'E']), after, by simp, by simp, .quoted hbefore⟩
  iterate 2
    obtain ⟨front, rest, item, rfl, hclass, ⟨⟩⟩ := (reads_readUnicodeSet _).map_eq_ok_iff.mp h
    exact ⟨_ :: front, rest, rfl, rfl, .unicode (by simp) hclass⟩
  · split at h
    · next item hitem =>
      cases h
      obtain ⟨c, hhead, hitem⟩ := Option.bind_eq_some_iff.mp hitem
      obtain ⟨rest, rfl⟩ := List.head?_eq_some_iff.mp hhead
      exact ⟨[c], rest, rfl, rfl, .letter hitem⟩
    · obtain ⟨front, rest, code, rfl, hescape, ⟨⟩⟩ := reads_readEscape.map_eq_ok_iff.mp h
      exact ⟨front, rest, rfl, rfl, .escape hescape⟩

theorem Lexeme.exists_of_readPieces {c : Char} {found : List Piece}
    (h : readPieces c text = .ok (found, used)) :
    ∃ front rest, text = front ++ rest ∧ used = front.length ∧ Lexeme (c :: front) rest found := by
  unfold readPieces at h
  dsimp only at h
  split at h
  · obtain ⟨front, rest, piece, rfl, hgroup, ⟨⟩⟩ := reads_readGroup.map_eq_ok_iff.mp h
    exact ⟨front, rest, rfl, rfl, .group hgroup⟩
  iterate 5
    cases h
    exact ⟨[], text, rfl, rfl, .sign (by simp [signs])⟩
  · obtain ⟨front, rest, set, rfl, hclass, ⟨⟩⟩ := reads_readClass.map_eq_ok_iff.mp h
    exact ⟨front, rest, rfl, rfl, .bracket hclass⟩
  · cases h
    exact Lexeme.exists_of_timesPiece .star
  · cases h
    exact Lexeme.exists_of_timesPiece .plus
  · cases h
    exact Lexeme.exists_of_timesPiece .question
  · split at h
    · next least most length hread =>
      cases h
      obtain ⟨front, rest, rfl, rfl, hcounts⟩ := Counts.exists_of_readCounts? hread
      rw [List.take_left, List.drop_left]
      exact Lexeme.exists_of_timesPiece (.counted hcounts)
    · next hnone =>
      cases h
      refine ⟨[], text, rfl, rfl, .brace ?_⟩
      rintro front after least most rfl hcounts
      rw [hcounts.readCounts?_append] at hnone
      cases hnone
  · exact Lexeme.exists_of_readBackslash h
  · next hsign =>
    cases h
    refine ⟨[], text, rfl, rfl, .literal ?_⟩
    simp_all [specialCharacters]

theorem readBackslash_of_escape {code : Nat} (h : Escape front rest code) :
    readBackslash (front ++ rest) = .ok ([.literal code], front.length) := by
  have hread : (readEscape (front ++ rest)).map (fun found => ([Piece.literal found.1], found.2)) =
      .ok ([.literal code], front.length) :=
    reads_readEscape.map_eq_ok_iff.mpr ⟨front, rest, code, rfl, h, rfl⟩
  obtain ⟨c, front, rfl⟩ := h.exists_cons
  have hne (d : Char) (hd : d.isAlpha = true) (hname : d ∉ escapeNames) :
      c ≠ d := h.ne_of_isAlpha hd hname
  rw [List.cons_append, readBackslash]
  · have hitem : (c :: (front ++ rest)).head?.bind letterItem? = none := letterItem?_of_escape h
    rw [hitem]
    exact hread
  -- The letters with another meaning behind a backslash are no escapes.
  all_goals
    rintro _ heq
    exact hne _ rfl (by decide) (List.cons.inj heq).1

theorem readBackslash_of_letterItem? {c : Char} {item : ClassItem} (h : letterItem? c = some item)
    (rest : List Char) : readBackslash (c :: rest) = .ok ([.set ⟨[item], false⟩], 1) := by
  rw [readBackslash]
  · have hitem : (c :: rest).head?.bind letterItem? = some item := h
    rw [hitem]
  all_goals
    rintro _ heq
    obtain ⟨rfl, -⟩ := List.cons.inj heq
    cases h

/-- What a lexeme says is what is read. -/
theorem Lexeme.readPieces_eq_ok {found : List Piece} (h : Lexeme text rest found) :
    ∃ c front, text = c :: front ∧ readPieces c (front ++ rest) = .ok (found, front.length) := by
  cases h with
  | @sign c _ _ hsign =>
    refine ⟨c, [], rfl, ?_⟩
    simp only [signs, List.mem_cons, Prod.mk.injEq, List.not_mem_nil, or_false] at hsign
    rcases hsign with h | h | h | h | h <;> obtain ⟨rfl, rfl⟩ := h <;> rfl
  | @group front _ _ hgroup =>
    exact ⟨'(', front, rfl, reads_readGroup.map_eq_ok_iff.mpr ⟨_, _, _, rfl, hgroup, rfl⟩⟩
  | @bracket front _ _ hclass =>
    exact ⟨'[', front, rfl, reads_readClass.map_eq_ok_iff.mpr ⟨_, _, _, rfl, hclass, rfl⟩⟩
  | times hoperator hhead =>
    obtain ⟨c, front, rfl⟩ := hoperator.exists_cons
    refine ⟨c, front, rfl, ?_⟩
    rw [readPieces_of_operator hoperator, timesPiece]
    · rfl
    · rintro after rfl
      exact hhead rfl
  | timesLazily hoperator =>
    obtain ⟨c, front, rfl⟩ := hoperator.exists_cons
    refine ⟨c, front ++ ['?'], rfl, ?_⟩
    rw [List.append_assoc, readPieces_of_operator hoperator, List.singleton_append, timesPiece,
      List.length_append]
    rfl
  | brace hcounts =>
    refine ⟨'\x7b', [], rfl, ?_⟩
    have hnone : readCounts? rest = none := by
      rw [Option.eq_none_iff_forall_ne_some]
      rintro ⟨least, most, used⟩ hread
      obtain ⟨front, after, rfl, -, hfront⟩ := Counts.exists_of_readCounts? hread
      exact hcounts front after least most rfl hfront
    simp [readPieces, hnone]
  | @backslash c _ _ hletter =>
    refine ⟨'\\', [c], rfl, ?_⟩
    simp only [backslashLetters, List.mem_cons, Prod.mk.injEq, List.not_mem_nil,
      or_false] at hletter
    rcases hletter with h | h | h | h | h <;> obtain ⟨rfl, rfl⟩ := h <;> rfl
  | @quoted text _ htext =>
    refine ⟨'\\', 'Q' :: (text ++ ['\\', 'E']), rfl, ?_⟩
    have hread := readQuoted_append htext rest
    simp [readPieces, readBackslash, hread, quotedPieces]
  | @quotedToEnd text htext =>
    refine ⟨'\\', 'Q' :: text, rfl, ?_⟩
    simp [readPieces, readBackslash, readQuoted_of_open htext, quotedPieces]
  | @unicode letter front _ _ hletter hclass =>
    refine ⟨'\\', letter :: front, rfl, ?_⟩
    simp only [List.mem_cons, List.not_mem_nil, or_false] at hletter
    rcases hletter with rfl | rfl <;>
      exact (reads_readUnicodeSet _).map_eq_ok_iff.mpr ⟨_, _, _, rfl, hclass, rfl⟩
  | @letter c _ _ hitem => exact ⟨'\\', [c], rfl, readBackslash_of_letterItem? hitem rest⟩
  | @escape front _ _ hescape => exact ⟨'\\', front, rfl, readBackslash_of_escape hescape⟩
  | @literal c _ hc =>
    refine ⟨c, [], rfl, ?_⟩
    rw [readPieces]
    · rfl
    all_goals
      rintro rfl
      exact hc (by decide)

/-! ## Whole patterns -/

/-- The characters of a piece already read are passed over. -/
theorem piecesFrom_length_append (front rest : List Char) :
    piecesFrom front.length (front ++ rest) = piecesFrom 0 rest := by
  induction front with
  | nil => rfl
  | cons c front ih => exact ih

theorem Lexeme.pieces_append {found : List Piece} (h : Lexeme front rest found) :
    pieces (front ++ rest) = (found ++ (pieces rest).1, (pieces rest).2) := by
  obtain ⟨c, front, rfl, hread⟩ := h.readPieces_eq_ok
  rw [pieces, List.cons_append, piecesFrom, hread]
  dsimp only
  rw [piecesFrom_length_append]
  rfl

theorem Lexes.pieces_eq {found : List Piece} (h : Lexes text rest found) :
    pieces text = (found ++ (pieces rest).1, (pieces rest).2) := by
  induction h with
  | done => rfl
  | lexeme hfirst _ ih => rw [hfirst.pieces_append, ih, List.append_assoc]

/-- The lexemes of a pattern go on to its end, or to a place where none begins. -/
theorem lexes_pieces (text : List Char) :
    ∃ rest, Lexes text rest (pieces text).1 ∧ ((pieces text).2 = none ↔ rest = []) ∧
      ∀ front after found, rest = front ++ after → ¬ Lexeme front after found := by
  -- By the length of what is left: every lexeme takes at least one character.
  induction hlength : text.length using Nat.strong_induction_on generalizing text with
  | _ length ih =>
    cases text with
    | nil =>
      refine ⟨[], .done, by simp [pieces, piecesFrom], ?_⟩
      intro front after found hempty hlexeme
      obtain ⟨c, front, rfl, -⟩ := hlexeme.readPieces_eq_ok
      cases hempty
    | cons c text =>
      cases hread : readPieces c text with
      | error error =>
        -- A lexeme here would have been read.
        have hpieces : pieces (c :: text) = ([], some error) := by
          rw [pieces, piecesFrom, hread]
        rw [hpieces]
        refine ⟨c :: text, .done, by simp, ?_⟩
        intro front after found htext hlexeme
        obtain ⟨d, front, rfl, hfound⟩ := hlexeme.readPieces_eq_ok
        obtain ⟨rfl, rfl⟩ := List.cons.inj htext
        cases hfound.symm.trans hread
      | ok result =>
        obtain ⟨front, rest, rfl, -, hlexeme⟩ := Lexeme.exists_of_readPieces hread
        have hshorter : rest.length < length := by
          rw [← hlength, List.length_cons, List.length_append]
          omega
        obtain ⟨after, hlexes, hnone, hstops⟩ := ih _ hshorter rest rfl
        have hpieces := hlexeme.pieces_append
        rw [List.cons_append] at hpieces
        rw [hpieces]
        exact ⟨after, .lexeme hlexeme hlexes, hnone, hstops⟩

/-- A pattern is read without an error exactly if it falls into lexemes, and then as their
    pieces. -/
theorem pieces_eq_iff_lexes {found : List Piece} :
    pieces text = (found, none) ↔ Lexes text [] found := by
  refine ⟨?_, ?_⟩
  · intro h
    obtain ⟨rest, hlexes, hnone, -⟩ := lexes_pieces text
    rw [h] at hlexes hnone
    rwa [hnone.mp rfl] at hlexes
  · intro h
    rw [h.pieces_eq]
    exact congrArg (·, none) (List.append_nil found)

end CallSites.Regex
