/-! # Case-insensitive keywords

Keywords are ASCII, so lower-casing matters only for characters whose lower case is ASCII:
the capital letters and the Kelvin sign, whose lower case is the letter `k`.
-/

namespace Registry.Text

/-- Lower case of a character, for comparison with an ASCII keyword. -/
def foldChar (c : Char) : Char :=
  if c = '\u212a' then 'k' else c.toLower

/-- Lower case of a text, for comparison with an ASCII keyword. -/
def fold (s : String) : String :=
  s.map foldChar

end Registry.Text
