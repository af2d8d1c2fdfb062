/-!
# Blank characters

A blank is a character with the Unicode property `White_Space`; there are twenty-five, and the
zero-width space is not among them. Type texts and module names are read with the blanks around
them dropped.
-/

namespace SetterResolution.Text

/-- Whether `c` has the Unicode property `White_Space`. -/
def isBlank (c : Char) : Bool :=
  let n := c.toNat
  (0x09 ≤ n && n ≤ 0x0D) || n == 0x20 || n == 0x85 || n == 0xA0 || n == 0x1680 ||
    (0x2000 ≤ n && n ≤ 0x200A) || n == 0x2028 || n == 0x2029 || n == 0x202F || n == 0x205F ||
    n == 0x3000

/-- Whether a text has no character that is not blank. -/
def isAllBlank (text : String) : Bool :=
  text.toList.all isBlank

end SetterResolution.Text
