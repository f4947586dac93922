/-
  CallSites.ClassName

  The two spellings of a class name. Bytecode separates packages by slashes, source code by dots;
  converting a name into a format replaces the separator of the other one.
-/
import CallSites.Text.Basic

namespace CallSites

/-- The spelling of class names. -/
inductive NameFormat where
  /-- `com/app/Widget` -/
  | internal
  /-- `com.app.Widget` -/
  | canonical
  deriving DecidableEq, Repr

namespace NameFormat

/-- All formats. -/
def all : List NameFormat := [.internal, .canonical]

/-- The word for a format. -/
def word : NameFormat → String
  | .internal => "internal"
  | .canonical => "canonical"

/-- The format with this word. -/
def ofWord? (word : Text) : Option NameFormat :=
  all.find? fun format => (format.word : Text) == word

/-- The character between the parts of a name. -/
def separator : NameFormat → Char
  | .internal => '/'
  | .canonical => '.'

/-- The other spelling. -/
def other : NameFormat → NameFormat
  | .internal => .canonical
  | .canonical => .internal

/-- One character of a name, as this format writes it. -/
def respell (format : NameFormat) (c : Char) : Char :=
  if c = format.other.separator then format.separator else c

/-- A class name in this format, whichever spelling it comes in. -/
def normalize (format : NameFormat) (name : Text) : Text :=
  name.mapChars format.respell

/-- The same for a name that is known to consist of characters. -/
def spell (format : NameFormat) (name : String) : String :=
  name.map format.respell

@[simp] theorem toList_normalize (format : NameFormat) (name : Text) :
    (format.normalize name).toList = name.toList.map (Symbol.mapChar format.respell) := rfl

@[simp] theorem toList_spell (format : NameFormat) (name : String) :
    (format.spell name).toList = name.toList.map format.respell :=
  String.toList_map

@[simp] theorem normalize_ofString (format : NameFormat) (name : String) :
    format.normalize (.ofString name) = .ofString (format.spell name) :=
  Text.mapChars_ofString format.respell name

/-- Only the last spelling counts. -/
@[simp] theorem respell_respell (last first : NameFormat) (c : Char) :
    last.respell (first.respell c) = last.respell c := by
  by_cases hdot : c = '.'
  · subst hdot
    cases last <;> cases first <;> decide
  · by_cases hslash : c = '/'
    · subst hslash
      cases last <;> cases first <;> decide
    · have hfirst : first.respell c = c := by
        cases first <;> simp [respell, other, separator, hdot, hslash]
      rw [hfirst]

theorem respell_eq_self_iff {format : NameFormat} {c : Char} :
    format.respell c = c ↔ c ≠ format.other.separator := by
  refine ⟨?_, ?_⟩
  · rintro h rfl
    revert h
    cases format <;> decide
  · intro hc
    exact if_neg hc

theorem respell_ne_other_separator (format : NameFormat) (c : Char) :
    format.respell c ≠ format.other.separator :=
  respell_eq_self_iff.mp (respell_respell format format c)

/-- Only separators are respelled. -/
theorem eq_of_respell_eq {format : NameFormat} {c d : Char} (h : format.respell c = d)
    (hd : d ≠ format.separator) : c = d := by
  by_cases hc : c = format.other.separator
  · exact absurd (h.symm.trans (if_pos hc)) hd
  · rw [← h, respell_eq_self_iff.mpr hc]

theorem eq_of_mapChar_respell_eq {format : NameFormat} {c : Symbol} {d : Char}
    (h : c.mapChar format.respell = d) (hd : d ≠ format.separator) : c = d := by
  cases c with
  | char c => rw [eq_of_respell_eq (Symbol.char.inj h) hd]
  | surrogate offset => cases h

theorem mapChar_respell_eq_self_iff {format : NameFormat} {c : Symbol} :
    c.mapChar format.respell = c ↔ c ≠ format.other.separator := by
  cases c with
  | char c => simp [respell_eq_self_iff]
  | surrogate offset => simp [Symbol.mapChar]

@[simp] theorem normalize_append (format : NameFormat) (first second : Text) :
    format.normalize (first ++ second) = format.normalize first ++ format.normalize second := by
  apply Text.toList_injective
  simp

theorem mapChar_respell_ne_other_separator (format : NameFormat) (c : Symbol) :
    c.mapChar format.respell ≠ format.other.separator := by
  cases c with
  | char c => simpa using respell_ne_other_separator format c
  | surrogate offset => simp [Symbol.mapChar]

@[simp] theorem mapChar_respell_mapChar_respell (last first : NameFormat) (c : Symbol) :
    (c.mapChar first.respell).mapChar last.respell = c.mapChar last.respell := by
  cases c with
  | char c => simp
  | surrogate offset => rfl

@[simp] theorem normalize_normalize (last first : NameFormat) (name : Text) :
    last.normalize (first.normalize name) = last.normalize name := by
  apply Text.toList_injective
  simp

/-- Names that are equal in one format are equal in every other. -/
theorem normalize_eq_normalize (format other : NameFormat) {first second : Text}
    (h : format.normalize first = format.normalize second) :
    other.normalize first = other.normalize second := by
  rw [← normalize_normalize other format first, h, normalize_normalize]

/-- A name is spelled in a format exactly if the separator of the other one does not occur. -/
theorem normalize_eq_self_iff {format : NameFormat} {name : Text} :
    format.normalize name = name ↔ ↑format.other.separator ∉ name.toList := by
  rw [← Text.toList_inj, toList_normalize]
  refine ⟨?_, ?_⟩
  · intro h hmem
    rw [← h, List.mem_map] at hmem
    obtain ⟨c, -, hc⟩ := hmem
    exact mapChar_respell_ne_other_separator format c hc
  · intro hsep
    have hself : ∀ c ∈ name.toList, c.mapChar format.respell = id c := by
      intro c hc
      exact mapChar_respell_eq_self_iff.mpr fun heq => hsep (heq ▸ hc)
    rw [List.map_congr_left hself, List.map_id]

theorem separator_mem_normalize {format : NameFormat} {name : Text}
    (h : ↑format.other.separator ∈ name.toList) :
    ↑format.separator ∈ (format.normalize name).toList := by
  rw [toList_normalize, List.mem_map]
  exact ⟨_, h, congrArg Symbol.char (if_pos rfl)⟩

@[simp] theorem ofWord?_word (format : NameFormat) : ofWord? format.word = some format := by
  cases format <;> decide

end NameFormat

/-- The name with slashes. -/
def toInternalName (name : Text) : Text :=
  NameFormat.internal.normalize name

/-- The name with dots. -/
def toCanonicalName (name : Text) : Text :=
  NameFormat.canonical.normalize name

end CallSites
