/-
  CallSites.Number.Binary64

  Binary floating-point numbers with a significand of 53 bits, as exact data: a sign, a significand
  and a power of two. Every operation computes the exact result and then takes the nearest number.
-/

namespace CallSites

/-- A binary floating-point number. A finite one is `significand * 2 ^ exponent` with its sign. -/
inductive Binary64 where
  | finite (negative : Bool) (significand : Nat) (exponent : Int)
  | infinite (negative : Bool)
  | nan
  deriving DecidableEq, Repr

namespace Binary64

/-! ## Rounding -/

/-- The least exponent, at which small numbers lose digits. -/
def minExponent : Int := -1074

/-- The largest exponent of a finite number. -/
def maxExponent : Int := 971

/-- The number of binary digits of the significand. -/
def precision : Nat := 53

/-- The quotient rounded to the nearest integer, a tie to the even one. -/
def roundDiv (num den : Nat) : Nat :=
  let quotient := num / den
  let twice := 2 * (num % den)
  if den < twice || (twice == den && quotient % 2 == 1) then quotient + 1 else quotient

/-- The numerator and denominator of `num / den / 2 ^ exponent`. -/
private def scaled (num den : Nat) (exponent : Int) : Nat × Nat :=
  if exponent < 0 then (num * Nat.pow 2 exponent.natAbs, den)
  else (num, den * Nat.pow 2 exponent.toNat)

/-- The nearest number to `num / den`, with a sign. -/
def ofRatio (negative : Bool) (num den : Nat) : Binary64 :=
  if num = 0 then .finite negative 0 minExponent
  else
    let guess : Int := (num.log2 : Int) - den.log2 - precision
    let least := max guess minExponent
    let (n, d) := scaled num den least
    -- The guess is right or one too small.
    let exponent := if n / d < Nat.pow 2 precision then least else least + 1
    let (n, d) := scaled num den exponent
    let significand := roundDiv n d
    let (significand, exponent) := if significand = Nat.pow 2 precision
      then (Nat.pow 2 (precision - 1), exponent + 1) else (significand, exponent)
    if maxExponent < exponent then .infinite negative
    else .finite negative significand exponent

/-- The nearest number to a natural number. -/
def ofNat (n : Nat) : Binary64 :=
  ofRatio false n 1

/-- The nearest number to `digits * 10 ^ scale`, with a sign. Far beyond either end of the range
    the power is not computed. -/
def ofDecimal (negative : Bool) (digits : Nat) (scale : Int) : Binary64 :=
  if digits = 0 then .finite negative 0 minExponent
  else
    let magnitude : Int := (digits.log2 : Int) * 3 / 10 + scale
    if 400 < magnitude then .infinite negative
    else if magnitude < -400 then .finite negative 0 minExponent
    else if scale < 0 then ofRatio negative digits (Nat.pow 10 scale.natAbs)
    else ofRatio negative (digits * Nat.pow 10 scale.toNat) 1

/-! ## Values -/

/-- The numerator and denominator of the size of a finite number. -/
def toRatio (significand : Nat) (exponent : Int) : Nat × Nat :=
  if exponent < 0 then (significand, Nat.pow 2 exponent.natAbs)
  else (significand * Nat.pow 2 exponent.toNat, 1)

/-- The number with the other sign. -/
def negate : Binary64 → Binary64
  | .finite negative significand exponent => .finite (!negative) significand exponent
  | .infinite negative => .infinite (!negative)
  | .nan => .nan

/-- The integer that the number equals, if it equals one. -/
def toInt? : Binary64 → Option Int
  | .finite negative significand exponent =>
    let (num, den) := toRatio significand exponent
    if num % den = 0 then
      let size : Int := (num / den : Nat)
      some (if negative then -size else size)
    else none
  | _ => none

/-! ## Arithmetic -/

/-- Whether the number has a minus sign. -/
def isNegative : Binary64 → Bool
  | .finite negative _ _ | .infinite negative => negative
  | .nan => false

/-- The sum of two numbers. Where they cancel out, the sum is a zero without a sign. -/
def add : Binary64 → Binary64 → Binary64
  | .finite p s e, .finite q t f =>
    let (a, b) := toRatio s e
    let (c, d) := toRatio t f
    let left := a * d
    let right := c * b
    if p = q then ofRatio p (left + right) (b * d)
    else if left = right then ofRatio false 0 1
    else if left < right then ofRatio q (right - left) (b * d)
    else ofRatio p (left - right) (b * d)
  | .infinite p, .infinite q => if p = q then .infinite p else .nan
  | .nan, _ | _, .nan => .nan
  | .infinite p, _ | _, .infinite p => .infinite p

/-- The product of two numbers. -/
def mul (left right : Binary64) : Binary64 :=
  let negative := left.isNegative != right.isNegative
  match left, right with
  | .finite _ s e, .finite _ t f =>
    let (a, b) := toRatio s e
    let (c, d) := toRatio t f
    ofRatio negative (a * c) (b * d)
  | .nan, _ | _, .nan => .nan
  | .finite _ 0 _, _ | _, .finite _ 0 _ => .nan
  | _, _ => .infinite negative

end Binary64

end CallSites
