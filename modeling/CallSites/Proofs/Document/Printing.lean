/-
  CallSites.Proofs.Document.Printing

  Which values can be printed: all but those with an integer of more digits than are written,
  wherever it stands in them. Such an integer raises the same exception in every place.
-/
import CallSites.Config.Basic
import CallSites.Proofs.Outcome

namespace CallSites

/-! ## Printing in steps -/

/-- What is printed unless a condition holds, and otherwise the exception of an integer that is too
    long. -/
inductive Printed {α : Type} (tooLong : Prop) : Except Exception α → Prop where
  | ok (result : α) : ¬ tooLong → Printed tooLong (.ok result)
  | error : tooLong → Printed tooLong (.error Decimal.unwritable)

namespace Printed

variable {α β : Type} {tooLong other : Prop} {outcome : Except Exception α}

theorem of_ok {result : α} : Printed False (.ok result) := .ok result not_false

theorem congr (h : Printed tooLong outcome) (hiff : tooLong ↔ other) : Printed other outcome :=
  propext hiff ▸ h

theorem map (h : Printed tooLong outcome) (f : α → β) : Printed tooLong (outcome.map f) := by
  cases h with
  | ok result hnot => exact .ok (f result) hnot
  | error htoo => exact .error htoo

/-- A sequence of two steps fails exactly if one of them does. -/
theorem bind {next : α → Except Exception β} (h : Printed tooLong outcome)
    (hnext : ∀ a, Printed other (next a)) : Printed (tooLong ∨ other) (outcome >>= next) := by
  cases h with
  | error htoo => exact .error (.inl htoo)
  | ok result hnot => exact (hnext result).congr ⟨.inr, fun h => h.resolve_left hnot⟩

theorem eq_error_iff (h : Printed tooLong outcome) {exception : Exception} :
    outcome = .error exception ↔ exception = Decimal.unwritable ∧ tooLong := by
  cases h with
  | ok result hnot => simp [hnot]
  | error htoo => simp [htoo, eq_comm]

theorem exists_ok (h : Printed tooLong outcome) (hnot : ¬ tooLong) :
    ∃ result, outcome = .ok result := by
  cases h with
  | ok result _ => exact ⟨result, rfl⟩
  | error htoo => exact absurd htoo hnot

end Printed

theorem printed_decimal (value : Int) :
    Printed (Decimal.IsTooLong value) (Decimal.text value) := by
  unfold Decimal.text
  split
  · next htoo => exact .error htoo
  · next hnot => exact .ok _ hnot

/-- The smallest integer that is too long. -/
theorem Decimal.isTooLong_pow : IsTooLong (10 ^ maxDigits) := by
  have hpow (count : Nat) : Nat.pow 10 count ≤ ((10 : Int) ^ count).natAbs := by
    rw [Int.natAbs_pow]
    exact Nat.le_refl _
  exact hpow maxDigits

/-! ## Values -/

namespace Value

mutual

/-- The integers in a value, keys included. -/
def integers : Value → List Int
  | .int value => [value]
  | .list items => integersOfItems items
  | .set items => integersOfItems items
  | .map entries => integersOfEntries entries
  | .pair key value => integers key ++ integers value
  | _ => []

/-- The integers in the items of a list. -/
def integersOfItems : List Value → List Int
  | [] => []
  | item :: items => integers item ++ integersOfItems items

/-- The integers in the entries of a mapping. -/
def integersOfEntries : List (Value × Value) → List Int
  | [] => []
  | (key, value) :: entries => integers key ++ integers value ++ integersOfEntries entries

end

/-- One of the integers has more digits than are written. -/
def AnyTooLong (integers : List Int) : Prop :=
  ∃ n ∈ integers, Decimal.IsTooLong n

/-- An integer in the value has more digits than are written. -/
def HoldsLongInteger (value : Value) : Prop :=
  AnyTooLong value.integers

theorem anyTooLong_append {first second : List Int} :
    AnyTooLong (first ++ second) ↔ AnyTooLong first ∨ AnyTooLong second := by
  simp only [AnyTooLong, List.mem_append]
  constructor
  · rintro ⟨n, hmem | hmem, htoo⟩
    · exact .inl ⟨n, hmem, htoo⟩
    · exact .inr ⟨n, hmem, htoo⟩
  · rintro (⟨n, hmem, htoo⟩ | ⟨n, hmem, htoo⟩)
    · exact ⟨n, .inl hmem, htoo⟩
    · exact ⟨n, .inr hmem, htoo⟩

theorem not_anyTooLong_nil : ¬ AnyTooLong [] := by
  simp [AnyTooLong]

theorem holdsLongInteger_int {value : Int} :
    (Value.int value).HoldsLongInteger ↔ Decimal.IsTooLong value := by
  simp [HoldsLongInteger, integers, AnyTooLong]

private theorem printed_plain {α : Type} {result : α} : Printed (AnyTooLong []) (.ok result) :=
  .ok result not_anyTooLong_nil

mutual

/-- A value is shown unless it holds an integer that is too long. -/
theorem printed_shown : ∀ value : Value, Printed value.HoldsLongInteger value.shown
  | .int value => (printed_decimal value).congr holdsLongInteger_int.symm
  | .list items => (printed_shownItems items).map _
  | .map entries => (printed_shownEntries entries).map _
  | .set [] => printed_plain
  | .set (item :: items) => (printed_shownItems (item :: items)).map _
  | .pair key value =>
    ((printed_shown key).bind fun _ => (printed_shown value).map _).congr anyTooLong_append.symm
  | .null | .bool _ | .float _ | .str _ | .date _ | .dateTime _ | .bytes _ => printed_plain

theorem printed_shownItems :
    ∀ items : List Value, Printed (AnyTooLong (integersOfItems items)) (shownItems items)
  | [] => .ok [] not_anyTooLong_nil
  | item :: items =>
    ((printed_shown item).bind fun _ => (printed_shownItems items).map _).congr
      anyTooLong_append.symm

theorem printed_shownEntries :
    ∀ entries : List (Value × Value),
      Printed (AnyTooLong (integersOfEntries entries)) (shownEntries entries)
  | [] => .ok [] not_anyTooLong_nil
  | (key, value) :: entries => by
    have hentry : AnyTooLong (integersOfEntries ((key, value) :: entries)) ↔
        key.HoldsLongInteger ∨ value.HoldsLongInteger ∨ AnyTooLong (integersOfEntries entries) := by
      rw [integersOfEntries, anyTooLong_append, anyTooLong_append, or_assoc]
      rfl
    exact ((printed_shown key).bind fun _ => (printed_shown value).bind fun _ =>
      (printed_shownEntries entries).map _).congr hentry.symm

end

theorem printed_text (value : Value) : Printed value.HoldsLongInteger value.text := by
  cases value with
  | str string => exact printed_plain
  | date value => exact printed_plain
  | dateTime value => exact printed_plain
  | _ => exact (printed_shown _).map Text.ofString

end Value

/-! ## Keys -/

namespace MatcherConfig

/-- One of the keys cannot be printed. -/
def HasLongKey (entries : Entries) : Prop :=
  ∃ entry ∈ entries, entry.1.HoldsLongInteger

theorem printed_mapM_text (keys : List Value) :
    Printed (∃ key ∈ keys, key.HoldsLongInteger) (keys.mapM Value.text) := by
  induction keys with
  | nil => exact .ok [] (by simp)
  | cons key keys ih =>
    rw [List.mapM_cons]
    exact ((Value.printed_text key).bind fun _ => ih.map _).congr (by simp)

theorem printed_keyTexts (entries : Entries) :
    Printed (HasLongKey entries) (keyTexts entries) :=
  ((printed_mapM_text (entries.map Prod.fst)).map _).congr (by simp [HasLongKey])

end MatcherConfig
end CallSites
