/-! # Blank text

The characters with the Unicode property `White_Space`. A name made of nothing else counts
as empty.
-/

namespace Registry.Text

/-- Members of the Unicode property `White_Space`. -/
def isBlank (c : Char) : Bool :=
  let n := c.toNat
  (9 ≤ n && n ≤ 13) || n == 0x20 || n == 0x85 || n == 0xA0 || n == 0x1680 ||
    (0x2000 ≤ n && n ≤ 0x200A) || n == 0x2028 || n == 0x2029 || n == 0x202F ||
    n == 0x205F || n == 0x3000

/-- Nothing is left of the text once blanks are trimmed from its ends. -/
def allBlank (s : String) : Bool :=
  s.toList.all isBlank

end Registry.Text
