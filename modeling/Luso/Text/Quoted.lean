import Luso.Text.Extending
import Luso.Text.Printable

/-!
# Quoted text

Messages quote characters and strings so that nothing in them is invisible.  A line feed, a tab and
the like have short escapes; what cannot be printed, or would join the character before it, is
written by its code point.
-/

namespace Luso
namespace Text

/-- The code point of a character in lower-case hexadecimal, as in `\u{301}`. -/
def escapeCode (character : Char) : List Char :=
  ['\\', 'u', '\x7b'] ++ Nat.toDigits 16 character.toNat ++ ['\x7d']

/-- A character as it stands between the given quotation marks. -/
def escape (quote character : Char) : List Char :=
  if character == '\x00' then ['\\', '0']
  else if character == '\t' then ['\\', 't']
  else if character == '\r' then ['\\', 'r']
  else if character == '\n' then ['\\', 'n']
  else if character == '\\' || character == quote then ['\\', character]
  else if isExtending character || !isPrintable character then escapeCode character
  else [character]

/-- A character in single quotation marks. -/
def quoteChar (character : Char) : String :=
  String.ofList (['\''] ++ escape '\'' character ++ ['\''])

/-- A string in double quotation marks. -/
def quoteString (text : String) : String :=
  String.ofList (['"'] ++ text.toList.flatMap (escape '"') ++ ['"'])

end Text
end Luso
