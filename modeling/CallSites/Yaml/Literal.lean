/-
  CallSites.Yaml.Literal

  The values of scalars that stand for numbers, times and bytes. A scalar may look like such a
  value and yet stand for none, like a date outside the calendar: then an exception is raised.
-/
import CallSites.Document.Value
import CallSites.Text.Blank
import CallSites.Text.Digit
import CallSites.Yaml.Place
import CallSites.Yaml.Tag

namespace CallSites.Yaml.Literal

/-! ## Digits -/

private def digitValue (c : Char) : Option Nat :=
  if c.isDigit then some (c.toNat - 48)
  else if 'a' ≤ c && c ≤ 'z' then some (c.toNat - 87)
  else if 'A' ≤ c && c ≤ 'Z' then some (c.toNat - 55)
  else none

/-- The number with these digits, if there are any and all are below the base. -/
private def number? (base : Nat) (digits : List Char) : Option Nat :=
  if digits = [] then none
  else digits.foldl (fun n c => do
    let n ← n
    let digit ← digitValue c
    if digit < base then some (n * base + digit) else none) (some 0)

/-- The text of a number, without blanks around it and with ASCII digits. A replacement character,
    which is part of no number, stands for each lone surrogate. -/
private def plain (text : List Symbol) : List Char :=
  let chars := text.map fun symbol => symbol.toChar?.getD '\uFFFD'
  ((chars.dropWhile Text.isBlank).reverse.dropWhile Text.isBlank).reverse.map Text.asciiDigit

/-- The sign before a number, and what follows it. -/
private def splitSign {α : Type} [DecidableEq α] (ofChar : Char → α) : List α → Bool × List α
  | c :: rest =>
    if c = ofChar '-' then (true, rest)
    else if c = ofChar '+' then (false, rest)
    else (false, c :: rest)
  | [] => (false, [])

/-- The parts between colons. -/
private def colonParts : List Symbol → List (List Symbol)
  | [] => [[]]
  | c :: rest =>
    match colonParts rest with
    | [] => [[c]]
    | part :: parts => if c = ':' then [] :: part :: parts else (c :: part) :: parts

/-- A text is empty where its first character is looked at. -/
private def missingCharacter : Exception := ⟨"IndexError", "string index out of range"⟩

/-- What stands for a number, without the underscores in it; it must not be empty. -/
private def numberText (text : Text) : Except Exception (List Symbol) :=
  match text.toList.filter (· != .char '_') with
  | [] => .error missingCharacter
  | digits => .ok digits

/-! ## Integers -/

/-- The longest that a refused text is shown in a message. -/
private def maxShown : Nat := 200

/-- An integer with its own sign, and in other bases with an optional `0` and base letter. -/
private def readInt (base : Nat) (mark : Option Char) (text : List Symbol) :
    Except Exception Int :=
  let (negative, digits) := splitSign id (plain text)
  let digits := match digits, mark with
    | '0' :: c :: rest, some mark => if c.toLower = mark then rest else digits
    | _, _ => digits
  let count := (digits.takeWhile fun c => (digitValue c).any (· < base)).length
  if base = 10 ∧ Decimal.maxDigits < count then .error (Decimal.unreadable count)
  else match number? base digits with
    | some n => .ok (if negative then -(n : Int) else n)
    | none =>
      let shown := String.ofList ((Text.quote (.ofList text)).toList.take maxShown)
      .error (.valueError
        ("invalid literal for int() with base " ++ toString base ++ ": " ++ shown))

private def sixties (parts : List Int) : Int :=
  parts.foldl (fun total part => total * 60 + part) 0

/-- The integer that a scalar stands for. -/
def int (text : Text) : Except Exception Int := do
  let (negative, digits) := splitSign .char (← numberText text)
  let size ← match digits with
    | [] => .error missingCharacter
    | [.char '0'] => .ok 0
    | .char '0' :: .char 'b' :: rest => readInt 2 (some 'b') rest
    | .char '0' :: .char 'x' :: rest => readInt 16 (some 'x') rest
    | .char '0' :: rest => readInt 8 (some 'o') (.char '0' :: rest)
    | digits =>
      if .char ':' ∈ digits then ((colonParts digits).mapM (readInt 10 none)).map sixties
      else readInt 10 none digits
  return if negative then -size else size

/-! ## Floating-point numbers -/

/-- A decimal number with a point or an exponent, without names for infinity. -/
private def decimal? (negative : Bool) (text : List Char) : Option Binary64 := do
  let whole := text.takeWhile Char.isDigit
  let (fraction, rest) := match text.drop whole.length with
    | '.' :: rest =>
      let fraction := rest.takeWhile Char.isDigit
      (fraction, rest.drop fraction.length)
    | rest => ([], rest)
  let digits ← number? 10 (whole ++ fraction)
  let exponent ← match rest with
    | [] => some 0
    | c :: rest =>
      if c = 'e' then do
        let (negative, digits) := splitSign id rest
        let size ← number? 10 digits
        some (if negative then -(size : Int) else size)
      else none
  some (.ofDecimal negative digits (exponent - (fraction.length : Int)))

/-- A number as programs write it, with lowercase letters. -/
private def readFloat (text : List Symbol) : Except Exception Binary64 :=
  let (negative, digits) := splitSign id (plain text)
  if digits = "inf".toList ∨ digits = "infinity".toList then .ok (.infinite negative)
  else if digits = "nan".toList then .ok .nan
  else match decimal? negative digits with
    | some value => .ok value
    | none =>
      .error (.valueError
        ("could not convert string to float: " ++ Text.quote (.ofList text)))

/-- A natural number as a floating-point number, if it is not too large for one. -/
private def floatOfNat (n : Nat) : Except Exception Binary64 :=
  match Binary64.ofNat n with
  | .infinite _ => .error ⟨"OverflowError", "int too large to convert to float"⟩
  | value => .ok value

/-- The sum of the parts, each in units of sixty times the next; the last part comes first. -/
private def floatSixties (base : Nat) (total : Binary64) :
    List Binary64 → Except Exception Binary64
  | [] => .ok total
  | part :: parts => do
    let unit ← floatOfNat base
    floatSixties (base * 60) (total.add (part.mul unit)) parts

/-- The floating-point number that a scalar stands for. -/
def floating (text : Text) : Except Exception Binary64 := do
  let (negative, digits) := splitSign .char ((← numberText text).map (Symbol.mapChar Char.toLower))
  let size ←
    if digits = (".inf" : Text).toList then .ok (.infinite false)
    else if digits = (".nan" : Text).toList then .ok .nan
    else if .char ':' ∈ digits then do
      let parts ← (colonParts digits).mapM readFloat
      floatSixties 1 (.ofNat 0) parts.reverse
    else readFloat digits
  return if negative then size.negate else size

/-! ## Times -/

/-- Between `least` and `most` digits at the front, and what follows. -/
private def digits? (least most : Nat) (text : List Char) : Option (Nat × List Char) :=
  let digits := (text.takeWhile Char.isDigit).take most
  if digits.length < least then none
  else (number? 10 digits).map fun n => (n, text.drop digits.length)

private def char? (c : Char) : List Char → Option (List Char)
  | d :: rest => if c = d then some rest else none
  | [] => none

private def isSpaceOrTab (c : Char) : Bool := c == ' ' || c == '\t'

/-- The offset from universal time at the end of a time. -/
private def zone? (text : List Char) : Option (Option Int) :=
  match text.dropWhile isSpaceOrTab with
  | [] => if text = [] then some none else none
  | ['Z'] => some (some 0)
  | c :: rest =>
    if c = '+' ∨ c = '-' then do
      let (hour, rest) ← digits? 1 2 rest
      let minute ← match rest with
        | [] => some 0
        | rest => do
          let (minute, rest) ← digits? 2 2 (← char? ':' rest)
          if rest = [] then some minute else none
      let size : Int := (hour * 3600 + minute * 60 : Nat)
      some (some (if c = '-' then -size else size))
    else none

/-- The first six digits after the point, as millionths. -/
private def micros (fraction : List Char) : Nat :=
  let digits := fraction.take 6
  ((number? 10 (digits ++ List.replicate (6 - digits.length) '0'))).getD 0

/-- The time of a day, from the hour on. -/
private def timeOn? (date : Document.Date) (text : List Char) : Option Document.DateTime := do
  let (hour, rest) ← digits? 1 2 text
  let (minute, rest) ← digits? 2 2 (← char? ':' rest)
  let (second, rest) ← digits? 2 2 (← char? ':' rest)
  let (fraction, rest) := match rest with
    | '.' :: rest =>
      let fraction := rest.takeWhile Char.isDigit
      (fraction, rest.drop fraction.length)
    | rest => ([], rest)
  some ⟨date, hour, minute, second, micros fraction, ← zone? rest⟩

/-- The numbers of a day, and of a time if there is one, whether or not they exist. -/
private def stamp? (text : List Char) : Option (Document.Date × Option Document.DateTime) := do
  let (year, rest) ← digits? 4 4 text
  let (month, rest) ← digits? 1 2 (← char? '-' rest)
  let (day, rest) ← digits? 1 2 (← char? '-' rest)
  let date : Document.Date := ⟨year, month, day⟩
  match rest with
  | [] => some (date, none)
  | c :: rest =>
    let time ← if c = 'T' ∨ c = 't' then some rest
      else if isSpaceOrTab c then some (rest.dropWhile isSpaceOrTab)
      else none
    some (date, some (← timeOn? date time))

/-- The text without a line feed at its end. -/
private def withoutLineFeed (text : List Char) : List Char :=
  if text.getLast? = some '\n' then text.dropLast else text

/-- The day, or the day and time, that a scalar stands for. -/
def timestamp (text : Text) : Except Exception Value :=
  match text.toString?.bind fun text => stamp? (withoutLineFeed text.toList) with
  | none => .error ⟨"AttributeError", "'NoneType' object has no attribute 'groupdict'"⟩
  | some (date, none) => do
    date.check
    return .date date
  | some (_, some time) => do
    time.offset.forM Document.checkOffset
    time.check
    return .dateTime time

/-! ## Bytes -/

private def sextet? (c : Char) : Option Nat :=
  if 'A' ≤ c && c ≤ 'Z' then some (c.toNat - 65)
  else if 'a' ≤ c && c ≤ 'z' then some (c.toNat - 71)
  else if c.isDigit then some (c.toNat + 4)
  else if c = '+' then some 62
  else if c = '/' then some 63
  else none

/-- The bytes of Base64 text, from a group of which `count` characters with the value `held` were
    read. Other characters are passed over, and the text must end between groups. -/
private def decodeBase64 (count held padding : Nat) : List Char → Option (List UInt8)
  | [] => if count = 0 then some [] else none
  | c :: rest =>
    if c = '=' then
      if 2 ≤ count then
        if 4 ≤ count + padding + 1 then some [] else decodeBase64 count held (padding + 1) rest
      else decodeBase64 count held padding rest
    else match sextet? c with
      | none => decodeBase64 count held padding rest
      | some sextet =>
        let held := held * 64 + sextet
        match count with
        | 0 => decodeBase64 1 sextet 0 rest
        | 1 => (decodeBase64 2 (held % 16) 0 rest).map (UInt8.ofNat (held / 16) :: ·)
        | 2 => (decodeBase64 3 (held % 4) 0 rest).map (UInt8.ofNat (held / 4) :: ·)
        | _ => (decodeBase64 0 0 0 rest).map (UInt8.ofNat held :: ·)

/-- The bytes that a scalar stands for. -/
def bytes? (text : Text) : Option (List UInt8) := do
  let chars := (← text.toString?).toList
  if chars.all (·.toNat < 0x80) then decodeBase64 0 0 0 chars else none

/-! ## All scalars -/

/-- The truth value of a word, in which case does not count. -/
private def bool (text : Text) : Except Exception Bool :=
  match (text.mapChars Char.toLower).toString? with
  | some "yes" | some "true" | some "on" => .ok true
  | some "no" | some "false" | some "off" => .ok false
  | _ => .error ⟨"KeyError", Text.quote (text.mapChars Char.toLower)⟩

private def constructed (outcome : Except Exception Value) : Except Refusal Value :=
  outcome.mapError .raised

/-- The value of a scalar with a tag. -/
def ofTag (tag : Tag) (text : Text) : Except Refusal Value :=
  match tag with
  | .null => .ok .null
  | .bool => constructed ((bool text).map .bool)
  | .int => constructed ((int text).map .int)
  | .float => constructed ((floating text).map .float)
  | .timestamp => constructed (timestamp text)
  | .str => .ok (.str text)
  | .binary =>
    match bytes? text with
    | some bytes => .ok (.bytes bytes)
    | none => .error .malformed
  | _ => .error .malformed

end CallSites.Yaml.Literal
