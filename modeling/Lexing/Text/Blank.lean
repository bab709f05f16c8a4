import Lexing.Text.CharacterSet

/-!
# Blank characters

The blank characters are those with the property `White_Space` of Unicode 17.0:
the ASCII spaces and line terminators, the other line and paragraph separators
and every space separator.
-/

namespace Lexing

/-- The characters with the property `White_Space`. -/
def blankSet : CharacterSet :=
  ⟨[(0x9, 0xd), (0x20, 0x20), (0x85, 0x85), (0xa0, 0xa0), (0x1680, 0x1680), (0x2000, 0x200a),
    (0x2028, 0x2029), (0x202f, 0x202f), (0x205f, 0x205f), (0x3000, 0x3000)], by decide +kernel⟩

/-- Whether the character is blank. -/
def isBlank (c : Char) : Bool :=
  blankSet.contains c

end Lexing
