/-
  CallSites.Number.Decimal

  Integers in decimal notation. An integer of more than 4300 digits is neither written nor read.
-/
import CallSites.Exception

namespace CallSites.Decimal

/-- The largest number of digits of an integer. -/
def maxDigits : Nat := 4300

/-- Whether the integer has more digits than are written. -/
def IsTooLong (value : Int) : Prop :=
  Nat.pow 10 maxDigits ≤ value.natAbs

instance (value : Int) : Decidable (IsTooLong value) :=
  inferInstanceAs (Decidable (_ ≤ _))

private def limit : String :=
  "Exceeds the limit (" ++ toString maxDigits ++ " digits) for integer string conversion"

private def remedy : String :=
  "; use sys.set_int_max_str_digits() to increase the limit"

/-- An integer has too many digits to be written. -/
def unwritable : Exception := .valueError (limit ++ remedy)

/-- A text has too many digits to be read as an integer. -/
def unreadable (count : Nat) : Exception :=
  .valueError (limit ++ ": value has " ++ toString count ++ " digits" ++ remedy)

/-- The text of an integer. -/
def text (value : Int) : Except Exception String :=
  if IsTooLong value then .error unwritable else .ok (toString value)

end CallSites.Decimal
