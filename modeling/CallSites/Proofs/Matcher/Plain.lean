/-
  CallSites.Proofs.Matcher.Plain

  Patterns without a character that has a meaning of its own. Such a pattern is read as the
  characters of its text, one after the other, so the only name it matches is the text itself and a
  matcher of it does what the matcher of the literal name does.
-/
import CallSites.Proofs.Matcher.Literal
import CallSites.Proofs.Matcher.Selection
import CallSites.Proofs.Regex.Lexeme
import CallSites.Proofs.Regex.Piece
import CallSites.Proofs.Regex.Variants

namespace CallSites

namespace Regex

open Text.Utf8 (encode)

/-! ## Plain texts -/

/-- The characters that a pattern gives a meaning to. -/
def metaCharacters : List Char :=
  ['\\', '.', '+', '*', '?', '(', ')', '[', ']', '\x7b', '\x7d', '|', '^', '$']

/-- None of the characters has a meaning in a pattern. -/
def IsPlain (text : String) : Prop :=
  ∀ c ∈ text.toList, c ∉ metaCharacters

/-- The expression of some characters, one after the other. -/
def word : List Char → Regex
  | [] => .empty
  | c :: letters => .concat (.chars (.single c.toNat)) (word letters)

/-- A word matches its own bytes, wherever they stand. -/
theorem matches_word_iff {letters : List Char} {front text back : List UInt8} :
    (word letters).Matches front text back ↔ text = encode letters := by
  -- Along the characters. What follows the first stands behind other bytes than the whole did.
  induction letters generalizing front text with
  | nil => exact Iff.rfl
  | cons c letters ih =>
    have hencode : encode (c :: letters) = String.utf8EncodeChar c ++ encode letters :=
      List.flatMap_cons
    rw [hencode]
    refine ⟨?_, ?_⟩
    · rintro ⟨_, right, rfl, ⟨d, hd, rfl⟩, hright⟩
      have hdc : d = c := Char.toNat_inj.mp (CharSet.has_single.mp hd)
      rw [hdc, ih.mp hright]
    · rintro rfl
      exact ⟨_, _, rfl, ⟨c, CharSet.has_single.mpr rfl, rfl⟩, ih.mpr rfl⟩

theorem mem_language_word_iff {text name : String} :
    name ∈ (word text.toList).language ↔ name = text := by
  refine matches_word_iff.trans ⟨?_, ?_⟩
  · intro h
    exact String.toList_inj.mp (encode_injective h)
  · rintro rfl
    rfl

/-! ## Reading -/

variable {letters : List Char} {text : String}

/-- The pieces of plain characters. -/
def literals (letters : List Char) : List Piece :=
  letters.map fun c => .literal c.toNat

/-- Every plain character is a lexeme of its own. -/
theorem lexes_of_plain (h : ∀ c ∈ letters, c ∉ metaCharacters) :
    Lexes letters [] (literals letters) := by
  induction letters with
  | nil => exact .done
  | cons c letters ih =>
    have hrest := ih fun d hd => h d (List.mem_cons_of_mem _ hd)
    have hplain := h c List.mem_cons_self
    have hspecial : specialCharacters ⊆ metaCharacters := by decide
    have hlexeme : Lexeme [c] letters [.literal c.toNat] :=
      .literal fun hmem => hplain (hspecial hmem)
    exact .lexeme hlexeme hrest

theorem pieces_of_plain (h : IsPlain text) : pieces text.toList = (literals text.toList, none) :=
  pieces_eq_iff_lexes.mpr (lexes_of_plain h)

theorem denotes_word (letters : List Char) :
    Denotes .sequence {} (literals letters) {} (word letters) := by
  induction letters with
  | nil => exact .nothing _
  | cons c letters ih => exact .part (.single rfl) ih

/-- Reading plain characters neither fails nor opens a group. -/
theorem exists_foldlM_literals (pattern letters : List Char) (reading : Reading) :
    ∃ next, (literals letters).foldlM (Reading.add pattern) reading = .ok next ∧
      next.outer = reading.outer := by
  induction letters generalizing reading with
  | nil => exact ⟨reading, rfl, rfl⟩
  | cons c letters ih =>
    obtain ⟨part, hpart⟩ : ∃ part, Piece.toRegex? reading.flags (.literal c.toNat) = some part :=
      ⟨_, rfl⟩
    obtain ⟨next, hnext, houter⟩ :=
      ih { reading with level := reading.level.push part, lastOperator := [] }
    refine ⟨next, ?_, houter⟩
    rw [literals, List.map_cons, List.foldlM_cons, add_of_toRegex? hpart, ok_bind]
    exact hnext

/-- A plain pattern is read as the word of its characters. -/
theorem parse_of_plain (h : IsPlain text) : parse text = .ok (word text.toList) := by
  have hpieces := pieces_of_plain h
  -- That the pattern is read is one thing, and the grammar then says as what.
  obtain ⟨reading, hread, houter⟩ := exists_foldlM_literals text.toList text.toList {}
  have hparse : parse text = .ok reading.level.toRegex := by
    refine parse_eq_ok_iff.mpr ⟨?_, reading, ?_, houter, rfl⟩
    · rw [hpieces]
    · rw [hpieces]
      exact hread
  have hdenotes : Denotes .alternatives {} (pieces text.toList).1 {} (word text.toList) := by
    rw [hpieces]
    exact .last (denotes_word _)
  rw [hparse, eq_of_denotes_of_parse hparse hdenotes]

/-- A plain pattern matches its text and no other name. -/
theorem Pattern.isMatch_eq_of_plain {pattern : Pattern} (h : IsPlain pattern.text) (name : String) :
    pattern.isMatch name = (name == pattern.text) := by
  rw [Bool.eq_iff_iff, pattern.isMatch_iff, patternLanguage_eq (parse_of_plain h),
    mem_language_word_iff, beq_iff_eq]

end Regex

/-! ## Matchers -/

namespace Matcher

open Regex (IsPlain)

variable {text cls method : String} {format : NameFormat}

/-- A plain pattern is compiled, and tests of it are tests of the literal name. -/
theorem exists_compilePattern_of_plain (h : IsPlain text) :
    ∃ pattern, compilePattern text = .ok pattern ∧
      (∀ name : String,
        (ClassMatcher.regex pattern).accepts name = (ClassMatcher.exact text).accepts name) ∧
      ∀ (name : String) (descriptor : Text), (MethodMatcher.regex pattern).accepts name descriptor =
        (MethodMatcher.named text).accepts name descriptor := by
  obtain ⟨pattern, hpattern, rfl⟩ :
      ∃ pattern, compilePattern text = .ok pattern ∧ pattern.text = text :=
    ⟨_, compilePattern_of_parse (Regex.parse_of_plain h), rfl⟩
  have hname (name : String) : pattern.accepts name = ((name : Text) == pattern.text) := by
    rw [Regex.Pattern.accepts_ofString, Regex.Pattern.isMatch_eq_of_plain h, Bool.eq_iff_iff,
      beq_iff_eq, beq_iff_eq, Text.ofString_inj]
  exact ⟨pattern, hpattern, hname, fun name _ => hname name⟩

/-- A class pattern stays as it is written, so it has to be spelled in the format to be plain. -/
theorem select_of_plain (hcls : IsPlain cls) (hmethod : IsPlain method)
    (hspelled : format.spell cls = cls) :
    ∃ patterns literals, forPatterns cls method format = .ok patterns ∧
      forName cls method format = .ok literals ∧
      ∀ classes, patterns.select classes = literals.select classes := by
  obtain ⟨first, hfirst, hclass, -⟩ := exists_compilePattern_of_plain hcls
  obtain ⟨second, hsecond, -, hname⟩ := exists_compilePattern_of_plain hmethod
  refine ⟨_, _, forPatterns_of_compilePattern hfirst hsecond format, forName_eq cls method format,
    ?_⟩
  refine select_congr fun name found descriptor => ?_
  have hclass : (ClassMatcher.regex first).accepts (format.normalize name) =
      (ClassMatcher.exact (format.normalize cls)).accepts (format.normalize name) := by
    rw [NameFormat.normalize_ofString, NameFormat.normalize_ofString, hspelled, hclass]
  have hmethod := hname found descriptor
  unfold accepts acceptsClass acceptsMethod literal
  simp only [hclass, hmethod]

end Matcher
end CallSites
