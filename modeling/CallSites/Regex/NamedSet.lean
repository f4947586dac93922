/-
  CallSites.Regex.NamedSet

  The character classes that a pattern can name: the one-letter classes after a backslash, the
  ASCII classes between `[:` and `:]`, and the categories and scripts of Unicode.
-/
import CallSites.Regex.CharSet
import CallSites.Unicode.Category
import CallSites.Unicode.Script

namespace CallSites.Regex

open CharSet (ofRanges)

/-! ## Classes of ASCII characters -/

private def digits : List (Char × Char) := [('0', '9')]

private def upperLetters : List (Char × Char) := [('A', 'Z')]

private def lowerLetters : List (Char × Char) := [('a', 'z')]

private def wordCharacters : List (Char × Char) :=
  digits ++ upperLetters ++ lowerLetters ++ [('_', '_')]

/-- The class that a lowercase letter names after a backslash: digits, blanks or word characters.
    The uppercase letter names the complement. -/
def letterSet? : Char → Option CharSet
  | 'd' => some (ofRanges digits)
  | 's' => some (ofRanges [('\t', '\n'), ('\x0c', '\r'), (' ', ' ')])
  | 'w' => some (ofRanges wordCharacters)
  | _ => none

/-- The ASCII class with this name between `[:` and `:]`. -/
def asciiSet? : String → Option CharSet
  | "alnum" => some (ofRanges (digits ++ upperLetters ++ lowerLetters))
  | "alpha" => some (ofRanges (upperLetters ++ lowerLetters))
  | "ascii" => some (ofRanges [('\x00', '\x7f')])
  | "blank" => some (ofRanges [('\t', '\t'), (' ', ' ')])
  | "cntrl" => some (ofRanges [('\x00', '\x1f'), ('\x7f', '\x7f')])
  | "digit" => some (ofRanges digits)
  | "graph" => some (ofRanges [('!', '~')])
  | "lower" => some (ofRanges lowerLetters)
  | "print" => some (ofRanges [(' ', '~')])
  | "punct" => some (ofRanges [('!', '/'), (':', '@'), ('[', '\x60'), ('\x7b', '~')])
  | "space" => some (ofRanges [('\t', '\r'), (' ', ' ')])
  | "upper" => some (ofRanges upperLetters)
  | "word" => some (ofRanges wordCharacters)
  | "xdigit" => some (ofRanges (digits ++ [('A', 'F'), ('a', 'f')]))
  | _ => none

/-! ## Classes of Unicode -/

/-- The class with this Unicode name: `Any`, a general category or its first letter, or a
    script. -/
def unicodeSet? (name : String) : Option CharSet :=
  if name = "Any" then some .all
  else match Unicode.categoryTables name with
    | [] => (Unicode.scriptTable? name).map .table
    | tables => some (.unions (tables.map .table))

/-! ## Names of groups -/

private def groupNameCategories : List String :=
  ["Lu", "Ll", "Lt", "Lm", "Lo", "Nl", "Mn", "Mc", "Nd", "Pc"]

/-- The characters that may occur in the name of a group: letters, letter numbers, marks other
    than enclosing ones, digits and connecting punctuation. -/
def groupNameSet : CharSet :=
  .unions ((groupNameCategories.flatMap Unicode.categoryTables).map .table)

end CallSites.Regex
