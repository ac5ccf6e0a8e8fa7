/-!
# Blank text

Which characters count as white space, and when a text is blank. The class is that of the Unicode
property White_Space: 25 characters, of which core's `Char.isWhitespace` knows four.
-/

namespace Conductor

/-- White space in the sense of the Unicode property of that name. -/
def isBlankChar (c : Char) : Bool :=
  let n := c.toNat
  (0x09 ≤ n && n ≤ 0x0D) || n == 0x20 || n == 0x85 || n == 0xA0 || n == 0x1680 ||
    (0x2000 ≤ n && n ≤ 0x200A) || n == 0x2028 || n == 0x2029 || n == 0x202F || n == 0x205F ||
    n == 0x3000

/-- A text without any character but white space; the empty text is one. -/
def isBlank (s : String) : Bool :=
  s.toList.all isBlankChar

end Conductor
