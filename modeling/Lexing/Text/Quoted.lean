import Lexing.Text.Offset
import Lexing.Text.Printable

/-!
# Quoted text

A text is quoted for a log by putting it between quotation marks and escaping
what would not show: the backslash and the quotation mark get a backslash, the usual
controls their letter, and every other character that is not printable its code point
in hexadecimal.

## Main definitions

* `Text.escape`: the spelling of one character.
* `Text.quote`: a text between quotation marks.
-/

namespace Lexing.Text

/-- The spelling of a character in a quoted text. -/
def escape (c : Char) : Text :=
  if c = '\x00' then ['\\', '0']
  else if c = '\t' then ['\\', 't']
  else if c = '\r' then ['\\', 'r']
  else if c = '\n' then ['\\', 'n']
  else if c = '\\' || c = '"' then ['\\', c]
  else if isPrintable c then [c]
  else ['\\', 'u', '\x7b'] ++ Nat.toDigits 16 c.toNat ++ ['\x7d']

/-- The text between quotation marks. -/
def quote (text : Text) : String :=
  String.ofList ('"' :: text.flatMap escape ++ ['"'])

end Lexing.Text
