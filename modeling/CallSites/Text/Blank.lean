/-
  CallSites.Text.Blank

  The blank characters of Unicode text: what may not occur inside a segment of a class name.
-/

namespace CallSites.Text

/-- Blank characters are the controls that separate words, lines, files or records, the no-break
    spaces, and the space, line and paragraph separators. -/
def isBlank (c : Char) : Bool :=
  let code := c.toNat
  (0x9 ≤ code && code ≤ 0xD) || (0x1C ≤ code && code ≤ 0x20) || code == 0x85 || code == 0xA0 ||
    code == 0x1680 || (0x2000 ≤ code && code ≤ 0x200A) || code == 0x2028 || code == 0x2029 ||
    code == 0x202F || code == 0x205F || code == 0x3000

end CallSites.Text
