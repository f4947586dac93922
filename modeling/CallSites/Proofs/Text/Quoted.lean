/-
  CallSites.Proofs.Text.Quoted

  Quoted text read back. Every escape says by its first characters how long it is, and none begins
  with the quote around the text, so that a quoted text ends at its closing quote whatever follows.
  Texts are therefore told apart by their quoted forms, also where more is printed after them.
-/
import CallSites.Text.Quoted
import Mathlib

namespace CallSites

/-! ## Printed forms that end by themselves -/

/-- The printed forms of two values agree, up to what follows them, only if the values do. -/
def SelfDelimiting {α : Type} (print : α → String) : Prop :=
  ∀ ⦃a b : α⦄ ⦃rest rest' : String⦄, print a ++ rest = print b ++ rest' → a = b ∧ rest = rest'

theorem SelfDelimiting.injective {α : Type} {print : α → String} (h : SelfDelimiting print) :
    Function.Injective print := by
  intro a b hprint
  have happend : print a ++ "" = print b ++ "" := by rw [hprint]
  exact (h happend).1

/-- Where one printed form continues another, it is the same and nothing follows. -/
theorem SelfDelimiting.eq_of_continues {α : Type} {print : α → String} (h : SelfDelimiting print)
    {a b : α} {more : List Symbol}
    (hprint : (print b).toList.map Symbol.char = (print a).toList.map Symbol.char ++ more) :
    a = b ∧ more = [] := by
  obtain ⟨first, last, hchars, hfirst, rfl⟩ := List.map_eq_append_iff.mp hprint
  obtain rfl : first = (print a).toList :=
    List.map_inj_right (fun _ _ => Symbol.char.inj) |>.mp hfirst
  have happend : print a ++ String.ofList last = print b ++ "" := by
    apply String.toList_injective
    simp [hchars]
  obtain ⟨hsame, hnone⟩ := h happend
  obtain rfl : last = [] := by simpa using congrArg String.toList hnone
  exact ⟨hsame, rfl⟩

/-- The printed forms also end by themselves where text follows that cannot be encoded. -/
theorem SelfDelimiting.append_inj {α : Type} {print : α → String} (h : SelfDelimiting print)
    {a b : α} {rest rest' : Text} (hprint : Text.ofString (print a) ++ rest = print b ++ rest') :
    a = b ∧ rest = rest' := by
  have hsymbols := congrArg Text.toList hprint
  rcases List.append_eq_append_iff.mp hsymbols with ⟨more, hb, hrest⟩ | ⟨more, ha, hrest⟩
  · obtain ⟨hsame, rfl⟩ := h.eq_of_continues hb
    exact ⟨hsame, Text.toList_injective hrest⟩
  · obtain ⟨hsame, rfl⟩ := h.eq_of_continues ha
    exact ⟨hsame.symm, Text.toList_injective hrest.symm⟩

/-- Texts that begin with different characters are different, whatever follows. -/
theorem append_ne_of_first_ne {first second rest rest' : String} {c d : Char}
    {tail tail' : List Char} (hfirst : first.toList = c :: tail)
    (hsecond : second.toList = d :: tail') (hne : c ≠ d) : first ++ rest ≠ second ++ rest' := by
  intro h
  have hchars := congrArg String.toList h
  rw [String.toList_append, String.toList_append, hfirst, hsecond] at hchars
  exact hne (List.cons.inj hchars).1

namespace Text

/-! ## Hexadecimal digits -/

/-- The value of a lowercase hexadecimal digit. -/
def hexValue (c : Char) : Nat :=
  if c.toNat < 58 then c.toNat - 48 else c.toNat - 87

/-- The number that digits write, the most significant first. -/
def readHex (digits : List Char) : Nat :=
  digits.foldl (fun n c => n * 16 + hexValue c) 0

theorem hexValue_hexDigit : ∀ n < 16, hexValue (hexDigit n) = n := by decide

theorem readHex_append_singleton (digits : List Char) (c : Char) :
    readHex (digits ++ [c]) = readHex digits * 16 + hexValue c := by
  rw [readHex, List.foldl_append]
  rfl

theorem readHex_hexDigits (width n : Nat) : readHex (hexDigits width n) = n % 16 ^ width := by
  induction width generalizing n with
  | zero => rw [Nat.pow_zero, Nat.mod_one]; rfl
  | succ width ih =>
    have hlast : hexValue (hexDigit (n % 16)) = n % 16 :=
      hexValue_hexDigit _ (Nat.mod_lt n (by decide))
    -- The last digit is the remainder, and the others write the quotient.
    rw [hexDigits, readHex_append_singleton, ih, hlast, Nat.pow_succ', Nat.mod_mul]
    omega

/-! ## Escapes read back -/

/-- How many digits follow a letter after a backslash, if the letter announces any. -/
def digitCount? : Char → Option Nat
  | 'x' => some 2
  | 'u' => some 4
  | 'U' => some 8
  | _ => none

/-- What a letter after a backslash stands for if no digits follow it. -/
def escaped : Char → Char
  | 'n' => '\n'
  | 'r' => '\r'
  | 't' => '\t'
  | c => c

/-- Reads one code point as it is written between quotes, and returns what follows it. -/
def unescape : List Char → Option (Symbol × List Char)
  | [] => none
  | c :: rest =>
    if c = '\\' then
      match rest with
      | [] => none
      | letter :: rest =>
        match digitCount? letter with
        | some count => (Symbol.ofNat? (readHex (rest.take count))).map (·, rest.drop count)
        | none => some (escaped letter, rest)
    else some (c, rest)

/-- The quotes that a text may stand between. -/
def IsQuote (c : Char) : Prop :=
  c = '\'' ∨ c = '"'

instance (c : Char) : Decidable (IsQuote c) :=
  inferInstanceAs (Decidable (_ ∨ _))

theorem isQuote_delimiter (text : List Symbol) : IsQuote (delimiter text) := by
  rw [delimiter]
  split
  · exact .inr rfl
  · exact .inl rfl

/-- Digits that are announced are read as the code point that they number. -/
theorem unescape_digits {letter : Char} {count : Nat} (symbol : Symbol) (rest : List Char)
    (hletter : digitCount? letter = some count) (hsymbol : symbol.toNat < 16 ^ count) :
    unescape ('\\' :: letter :: (hexDigits count symbol.toNat ++ rest)) = some (symbol, rest) := by
  have htake : (hexDigits count symbol.toNat ++ rest).take count =
      hexDigits count symbol.toNat :=
    List.take_left' (length_hexDigits count symbol.toNat)
  have hdrop : (hexDigits count symbol.toNat ++ rest).drop count = rest :=
    List.drop_left' (length_hexDigits count symbol.toNat)
  rw [unescape, if_pos rfl]
  simp only [hletter, htake, hdrop, readHex_hexDigits, Nat.mod_eq_of_lt hsymbol,
    Symbol.ofNat?_toNat, Option.map_some]

theorem unescape_of_ne {c : Char} (hc : c ≠ '\\') (rest : List Char) :
    unescape (c :: rest) = some (.char c, rest) := by
  rw [unescape.eq_def]
  exact if_neg hc

/-- What is written for a character is read as that character, whatever follows. -/
theorem unescape_escape {quote : Char} (hquote : IsQuote quote) (c : Char) (rest : List Char) :
    unescape (escape quote c ++ rest) = some (.char c, rest) := by
  have hvalid : c.toNat < 0x110000 := by
    have hc := c.valid
    simp only [UInt32.isValidChar, Nat.isValidChar] at hc
    simp only [Char.toNat]
    omega
  -- One case for each form that a character may be written in.
  rw [escape]
  split_ifs with hself hnewline hreturn htab hascii hprintable hbyte hshort
  · rcases hself with rfl | rfl
    · rcases hquote with rfl | rfl <;> rfl
    · rfl
  · rw [hnewline]; rfl
  · rw [hreturn]; rfl
  · rw [htab]; rfl
  · exact unescape_of_ne (fun heq => hself (.inr heq)) rest
  · exact unescape_of_ne (fun heq => hself (.inr heq)) rest
  · exact unescape_digits c rest rfl hbyte
  · exact unescape_digits c rest rfl hshort
  · exact unescape_digits c rest rfl (Nat.lt_trans hvalid (by decide))

/-- A lone surrogate is written by its four digits, and read back like a character. -/
theorem unescape_escapeSymbol {quote : Char} (hquote : IsQuote quote) (symbol : Symbol)
    (rest : List Char) : unescape (escapeSymbol quote symbol ++ rest) = some (symbol, rest) := by
  cases symbol with
  | char c => exact unescape_escape hquote c rest
  | surrogate offset =>
    have hlt : (Symbol.surrogate offset).toNat < 16 ^ 4 := by
      have hoffset := offset.isLt
      simp only [Symbol.toNat]
      omega
    exact unescape_digits _ rest rfl hlt

/-- No character is written with the quote in front. -/
theorem exists_escape_eq_cons {quote : Char} (hquote : IsQuote quote) (c : Char) :
    ∃ d tail, escape quote c = d :: tail ∧ d ≠ quote := by
  have hbackslash : '\\' ≠ quote := by
    rcases hquote with rfl | rfl <;> decide
  rw [escape]
  split_ifs with hself
  -- Everything but a shown character is written behind a backslash.
  case pos => exact ⟨_, _, rfl, hbackslash⟩
  all_goals first
    | exact ⟨_, _, rfl, hbackslash⟩
    | exact ⟨_, _, rfl, fun heq => hself (.inl heq)⟩

theorem exists_escapeSymbol_eq_cons {quote : Char} (hquote : IsQuote quote) (symbol : Symbol) :
    ∃ d tail, escapeSymbol quote symbol = d :: tail ∧ d ≠ quote := by
  cases symbol with
  | char c => exact exists_escape_eq_cons hquote c
  | surrogate offset =>
    refine ⟨_, _, rfl, ?_⟩
    rcases hquote with rfl | rfl <;> decide

/-! ## Quoted texts -/

/-- Between equal quotes the code points are read back one by one, up to the closing quote. -/
theorem flatMap_escapeSymbol_append_inj {quote : Char} (hquote : IsQuote quote)
    {first second : List Symbol} {rest rest' : List Char}
    (h : first.flatMap (escapeSymbol quote) ++ quote :: rest =
      second.flatMap (escapeSymbol quote) ++ quote :: rest') : first = second ∧ rest = rest' := by
  induction first generalizing second with
  | nil =>
    cases second with
    | nil => exact ⟨rfl, (List.cons.inj h).2⟩
    | cons d second =>
      obtain ⟨e, tail, hescape, hne⟩ := exists_escapeSymbol_eq_cons hquote d
      rw [List.flatMap_cons, hescape] at h
      exact absurd (List.cons.inj h).1.symm hne
  | cons c first ih =>
    cases second with
    | nil =>
      obtain ⟨e, tail, hescape, hne⟩ := exists_escapeSymbol_eq_cons hquote c
      rw [List.flatMap_cons, hescape] at h
      exact absurd (List.cons.inj h).1 hne
    | cons d second =>
      have hread := congrArg unescape h
      rw [List.flatMap_cons, List.flatMap_cons, List.append_assoc, List.append_assoc,
        unescape_escapeSymbol hquote, unescape_escapeSymbol hquote] at hread
      obtain ⟨rfl, hrest⟩ := Prod.mk.inj (Option.some.inj hread)
      obtain ⟨rfl, rfl⟩ := ih hrest
      exact ⟨rfl, rfl⟩

theorem quoteChars_append_inj {first second : List Symbol} {rest rest' : List Char}
    (h : quoteChars first ++ rest = quoteChars second ++ rest') :
    first = second ∧ rest = rest' := by
  simp only [quoteChars, List.cons_append, List.append_assoc, List.nil_append] at h
  obtain ⟨hdelimiter, hbody⟩ := List.cons.inj h
  rw [← hdelimiter] at hbody
  exact flatMap_escapeSymbol_append_inj (isQuote_delimiter first) hbody

/-- A quoted text ends at its closing quote. -/
theorem selfDelimiting_quote : SelfDelimiting quote := by
  intro a b rest rest' h
  have hchars := congrArg String.toList h
  simp only [quote, String.toList_append, String.toList_ofList] at hchars
  obtain ⟨htext, hrest⟩ := quoteChars_append_inj hchars
  exact ⟨Text.toList_injective htext, String.toList_injective hrest⟩

/-- A quoted text begins with one of the quotes. -/
theorem exists_quote_eq (text : Text) :
    ∃ c tail, IsQuote c ∧ (quote text).toList = c :: tail :=
  ⟨delimiter text.toList, _, isQuote_delimiter text.toList, String.toList_ofList⟩

/-- A quoted text differs from a text that does not begin with a quote, whatever follows. -/
theorem quote_append_ne (text : Text) {other rest rest' : String} {d : Char}
    {tail : List Char} (hother : other.toList = d :: tail) (hd : ¬ IsQuote d) :
    quote text ++ rest ≠ other ++ rest' := by
  obtain ⟨c, tail, hquote, htext⟩ := exists_quote_eq text
  apply append_ne_of_first_ne htext hother
  rintro rfl
  exact hd hquote

end Text
end CallSites
