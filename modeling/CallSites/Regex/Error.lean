/-
  CallSites.Regex.Error

  Why a pattern is not a regular expression. Each cause quotes the part of the pattern at fault.
-/
import CallSites.Text.Quoted
import CallSites.Text.Utf8

namespace CallSites.Regex

/-- Why a pattern is refused. -/
inductive Error where
  /-- A bracket opens a class that does not end. -/
  | missingBracket (rest : List Char)
  | missingParen (pattern : List Char)
  | unexpectedParen (pattern : List Char)
  | trailingBackslash
  /-- A repetition with nothing before it. -/
  | missingOperand (operator : List Char)
  /-- A count that is too large, alone or with the counts inside it, or out of order. -/
  | repeatSize (operator : List Char)
  /-- A repetition directly after another. -/
  | repeatOperator (operators : List Char)
  /-- A group that opens in an unknown way. -/
  | groupOperator (text : List Char)
  | escape (text : List Char)
  /-- A range out of order, or a class with an unknown name. -/
  | classRange (text : List Char)
  | groupName (text : List Char)
  /-- The pattern ends where the digits of a code point should follow. -/
  | missingCodePoint
  deriving DecidableEq, Repr

namespace Error

/-- What is wrong, without the part at fault. -/
def title : Error → String
  | .missingBracket _ => "missing ]"
  | .missingParen _ => "missing )"
  | .unexpectedParen _ => "unexpected )"
  | .trailingBackslash => "trailing \\"
  | .missingOperand _ => "no argument for repetition operator"
  | .repeatSize _ => "invalid repetition size"
  | .repeatOperator _ => "bad repetition operator"
  | .groupOperator _ => "invalid perl operator"
  | .escape _ => "invalid escape sequence"
  | .classRange _ => "invalid character class range"
  | .groupName _ => "invalid named capture group"
  | .missingCodePoint => "invalid UTF-8"

/-- The part of the pattern at fault. -/
def text : Error → List Char
  | .trailingBackslash | .missingCodePoint => []
  | .missingBracket text | .missingParen text | .unexpectedParen text | .missingOperand text
  | .repeatSize text | .repeatOperator text | .groupOperator text | .escape text
  | .classRange text | .groupName text => text

/-- The error in words, with the part at fault after a colon if there is one. -/
def message (error : Error) : String :=
  if error.text = [] then error.title
  else error.title ++ ": " ++ String.ofList error.text

/-- The message as quoted bytes of UTF-8. -/
def reason (error : Error) : String :=
  Text.quoteBytes (Text.Utf8.encode error.message.toList)

end Error

end CallSites.Regex
