import Luso.Text.Decomposition

/-!
# Removing accents

A text is brought into plain ASCII by decomposing it and keeping only the ASCII characters, so that
`ação` becomes `acao`.  Letters of other scripts leave nothing behind.
-/

namespace Luso
namespace Text

/-- Whether a character is one of the 128 ASCII characters. -/
def isAscii (character : Char) : Bool :=
  character.toNat < 128

/-- The ASCII characters of the canonical decomposition of a text. -/
def removeAccents (text : String) : String :=
  String.ofList ((canonicalDecomposition text.toList).filter isAscii)

end Text
end Luso
