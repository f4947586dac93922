/-
  CallSites.Text.Quoted

  Text and bytes as one quoted line. The quote is single unless the text holds single quotes and
  no double ones; what cannot be shown is written as an escape with lowercase hexadecimal digits.
-/
import CallSites.Exception
import CallSites.Text.Basic
import CallSites.Text.Printable

namespace CallSites.Text

/-! ## Hexadecimal digits -/

/-- The lowercase hexadecimal digit of a number below sixteen. -/
def hexDigit (n : Nat) : Char :=
  if n < 10 then Char.ofNat (48 + n) else Char.ofNat (87 + n)

/-- The last `width` hexadecimal digits of a number, the most significant first. -/
def hexDigits : Nat → Nat → List Char
  | 0, _ => []
  | width + 1, n => hexDigits width (n / 16) ++ [hexDigit (n % 16)]

@[simp] theorem length_hexDigits (width n : Nat) : (hexDigits width n).length = width := by
  induction width generalizing n with
  | zero => rfl
  | succ width ih => simp [hexDigits, ih]

/-! ## Quoted text -/

/-- The quote around a text: the double quote where only single quotes occur inside. -/
def delimiter (text : List Symbol) : Char :=
  if .char '\'' ∈ text ∧ .char '"' ∉ text then '"' else '\''

/-- How one character is written between quotes. -/
def escape (quote c : Char) : List Char :=
  if c = quote ∨ c = '\\' then ['\\', c]
  else if c = '\n' then ['\\', 'n']
  else if c = '\r' then ['\\', 'r']
  else if c = '\t' then ['\\', 't']
  else if 0x20 ≤ c.toNat ∧ c.toNat < 0x7F then [c]
  else if 0x80 ≤ c.toNat ∧ isPrintable c then [c]
  else if c.toNat < 0x100 then '\\' :: 'x' :: hexDigits 2 c.toNat
  else if c.toNat < 0x10000 then '\\' :: 'u' :: hexDigits 4 c.toNat
  else '\\' :: 'U' :: hexDigits 8 c.toNat

/-- How a lone surrogate is written. -/
def escapeSurrogate (offset : Fin 0x800) : List Char :=
  '\\' :: 'u' :: hexDigits 4 (Symbol.surrogate offset).toNat

/-- How one code point is written between quotes. -/
def escapeSymbol (quote : Char) : Symbol → List Char
  | .char c => escape quote c
  | .surrogate offset => escapeSurrogate offset

/-- The quoted form of a text, as characters. -/
def quoteChars (text : List Symbol) : List Char :=
  let quote := delimiter text
  quote :: (text.flatMap (escapeSymbol quote) ++ [quote])

/-- The quoted form of a text. -/
def quote (text : Text) : String :=
  String.ofList (quoteChars text.toList)

/-! ## Printed text -/

/-- The text as it is printed where its lone surrogates have no encoding. -/
def printed (text : Text) : String :=
  String.ofList (text.toList.flatMap fun
    | .char c => [c]
    | .surrogate offset => escapeSurrogate offset)

/-- The exception for a text that cannot be encoded. It reports the first lone surrogates in a row,
    with their position. -/
def unencodable (text : Text) : Exception :=
  let isLone (symbol : Symbol) : Bool := symbol.toChar?.isNone
  let position := (text.toList.takeWhile fun symbol => !isLone symbol).length
  let found := (text.toList.drop position).takeWhile isLone
  let what :=
    if found.length = 1 then
      "character '" ++ printed (.ofList found) ++ "' in position " ++ toString position
    else
      "characters in position " ++ toString position ++ "-" ++
        toString (position + found.length - 1)
  ⟨"UnicodeEncodeError", "'utf-8' codec can't encode " ++ what ++ ": surrogates not allowed"⟩

/-! ## Quoted bytes -/

/-- How one byte is written between quotes: ASCII as in a text, all else in hexadecimal. -/
def escapeByte (quote : Char) (byte : UInt8) : List Char :=
  if byte.toNat < 0x80 then escape quote (Char.ofNat byte.toNat)
  else '\\' :: 'x' :: hexDigits 2 byte.toNat

/-- The quoted form of bytes, marked by a leading `b`. -/
def quoteBytes (bytes : List UInt8) : String :=
  let quote := if 0x27 ∈ bytes ∧ 0x22 ∉ bytes then '"' else '\''
  String.ofList ('b' :: quote :: (bytes.flatMap (escapeByte quote) ++ [quote]))

end CallSites.Text
