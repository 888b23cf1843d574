import Luso.Text.CodeSet

/-!
# Blanks

Two notions of blank: the four characters that separate lexemes, and the white space of every
script, which is trimmed from the end of a quoted line.
-/

namespace Luso
namespace Text

/-- Whether a character separates lexemes: space, tab, carriage return or line feed. -/
def isBlank (character : Char) : Bool :=
  character == ' ' || character == '\t' || character == '\r' || character == '\n'

/-- Whether a character is an indentation character: space or tab. -/
def isIndent (character : Char) : Bool :=
  character == ' ' || character == '\t'

/-- Code points with the property White_Space. -/
def whiteSpace : CodeSet :=
  [ (0x9, 0xD), (0x20, 0x20), (0x85, 0x85), (0xA0, 0xA0), (0x1680, 0x1680), (0x2000, 0x200A),
    (0x2028, 0x2029), (0x202F, 0x202F), (0x205F, 0x205F), (0x3000, 0x3000) ]

/-- Whether a character is white space in some script. -/
def isWhiteSpace (character : Char) : Bool :=
  whiteSpace.contains character.toNat

/-- The text without the longest final part whose characters all satisfy `test`. -/
def trimEndWhile (test : Char → Bool) (text : List Char) : List Char :=
  (text.reverse.dropWhile test).reverse

@[simp]
theorem trimEndWhile_nil (test : Char → Bool) : trimEndWhile test [] = [] := rfl

/-- What is trimmed is a final part whose characters all satisfy `test`. -/
theorem trimEndWhile_append (test : Char → Bool) (text : List Char) :
    trimEndWhile test text ++ (text.reverse.takeWhile test).reverse = text := by
  rw [trimEndWhile, ← List.reverse_append, List.takeWhile_append_dropWhile, List.reverse_reverse]

theorem mem_of_mem_trimEndWhile {test : Char → Bool} {text : List Char} {character : Char}
    (member : character ∈ trimEndWhile test text) : character ∈ text := by
  rw [← trimEndWhile_append test text]
  exact List.mem_append_left _ member

end Text
end Luso
