/-
  CallSites.Number.Shortest

  The shortest decimal text of a floating-point number: the fewest digits that read back as the
  same number, and of those the nearest ones.
-/
import CallSites.Number.Binary64

namespace CallSites.Binary64

/-! ## The digits -/

/-- A decimal numeral `digits * 10 ^ scale`. -/
structure Numeral where
  digits : Nat
  scale : Int
  deriving DecidableEq, Repr

/-- A positive number as the fraction `num / den`, with the ends of the interval of reals that
    round to it over the same denominator. -/
private structure Neighbourhood where
  num : Nat
  den : Nat
  low : Nat
  high : Nat
  /-- Whether the ends themselves round to the number. -/
  closed : Bool

private def neighbourhood (significand : Nat) (exponent : Int) : Neighbourhood :=
  let (num, den) := toRatio significand exponent
  -- One unit of the significand is `den' / significand`-th of the number; count in its quarters.
  let unit := num / significand
  let lowGap := if significand = Nat.pow 2 (precision - 1) ∧ minExponent < exponent then 1 else 2
  ⟨4 * num, 4 * den, 4 * num - lowGap * unit, 4 * num + 2 * unit, significand % 2 == 0⟩

/-- Whether `digits * 10 ^ scale` lies in the interval. -/
private def Neighbourhood.holds (n : Neighbourhood) (numeral : Numeral) : Bool :=
  let (left, factor) := if numeral.scale < 0
    then (numeral.digits * n.den, Nat.pow 10 numeral.scale.natAbs)
    else (numeral.digits * Nat.pow 10 numeral.scale.toNat * n.den, 1)
  if n.closed then n.low * factor ≤ left && left ≤ n.high * factor
  else n.low * factor < left && left < n.high * factor

/-- The neighbours of the number among the multiples of `10 ^ scale`, the nearer one first. -/
private def Neighbourhood.candidates (n : Neighbourhood) (scale : Int) : List Numeral :=
  let (num, den) := if scale < 0 then (n.num * Nat.pow 10 scale.natAbs, n.den)
    else (n.num, n.den * Nat.pow 10 scale.toNat)
  let below : Numeral := ⟨num / den, scale⟩
  let above : Numeral := ⟨num / den + 1, scale⟩
  let twice := 2 * (num % den)
  if twice < den || (twice == den && num / den % 2 == 0) then [below, above] else [above, below]

/-- The number of decimal digits of the integer part, or minus the zeros after the point. -/
private def Neighbourhood.magnitude (n : Neighbourhood) : Int :=
  let digits (k : Nat) : Int := (Nat.toDigits 10 k).length
  if n.den ≤ n.num then digits (n.num / n.den)
  else
    -- With `num < den`, the digits of the inverse tell how far the first digit is from the point.
    let inverse := n.den / n.num
    let size := (Nat.toDigits 10 inverse).length
    let exact := inverse * n.num == n.den && Nat.pow 10 (size - 1) == inverse
    if exact then 2 - digits inverse else 1 - digits inverse

/-- The first candidate in the interval, over 1, 2, … digits up to `count`. -/
private def Neighbourhood.firstHit (n : Neighbourhood) (magnitude : Int) : Nat → Option Numeral
  | 0 => none
  | count + 1 =>
    (n.firstHit magnitude count).or
      ((n.candidates (magnitude - (count + 1 : Nat))).find? n.holds)

/-- The shortest numeral of a positive number. Seventeen digits always suffice. -/
def shortest (significand : Nat) (exponent : Int) : Numeral :=
  let n := neighbourhood significand exponent
  (n.firstHit n.magnitude 17).getD ⟨n.num / n.den, 0⟩

/-! ## The text -/

/-- The digits without the zeros at their end. -/
private def trimZeros (digits : List Char) : List Char :=
  (digits.reverse.dropWhile (· == '0')).reverse

/-- The text of digits with the point after the first `point` of them. Numbers below a
    ten-thousandth or from ten to the sixteenth on have an exponent of at least two digits, all
    others at least one digit on either side of the point. -/
private def layout (digits : List Char) (point : Int) : List Char :=
  let exponent := point - 1
  if exponent < -4 || 16 ≤ exponent then
    let mantissa := match digits with
      | first :: second :: rest => first :: '.' :: second :: rest
      | digits => digits
    let size := Nat.toDigits 10 exponent.natAbs
    let padded := if size.length < 2 then '0' :: size else size
    mantissa ++ 'e' :: (if exponent < 0 then '-' else '+') :: padded
  else if point ≤ 0 then '0' :: '.' :: (List.replicate point.natAbs '0' ++ digits)
  else
    let whole := digits.take point.toNat
    let whole := whole ++ List.replicate (point.toNat - whole.length) '0'
    match digits.drop point.toNat with
    | [] => whole ++ ['.', '0']
    | fraction => whole ++ '.' :: fraction

/-- The text of a number. -/
def text : Binary64 → String
  | .nan => "nan"
  | .infinite negative => if negative then "-inf" else "inf"
  | .finite negative significand exponent =>
    let body :=
      if significand = 0 then ['0', '.', '0']
      else
        let numeral := shortest significand exponent
        let digits := Nat.toDigits 10 numeral.digits
        layout (trimZeros digits) (numeral.scale + digits.length)
    String.ofList (if negative then '-' :: body else body)

end CallSites.Binary64
