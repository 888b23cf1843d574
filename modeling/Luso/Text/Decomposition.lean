import Luso.Text.CombiningClass
import Luso.Text.Decomposition.Table

/-!
# Canonical decomposition

A text is decomposed in two steps.  Every character is replaced by the sequence it stands for, and
then neighbouring marks are put into the order of their combining classes; marks of one class, and
all characters of class 0, keep their places.
-/

namespace Luso
namespace Text

/-- First Hangul syllable. -/
def hangulFirst : Nat := 0xAC00

/-- Number of Hangul syllables: 19 leading consonants, 21 vowels, 27 trailing consonants or none. -/
def hangulCount : Nat := 19 * 21 * 28

/-- The leading consonant, the vowel and, if there is one, the trailing consonant of the Hangul
syllable with the given index. -/
def hangulParts (index : Nat) : List Nat :=
  let lead := 0x1100 + index / (21 * 28)
  let vowel := 0x1161 + index % (21 * 28) / 28
  if index % 28 = 0 then [lead, vowel] else [lead, vowel, 0x11A7 + index % 28]

/-- The sequence that a character stands for; the character alone if it stands for no other. -/
def decompose (character : Char) : List Char :=
  let code := character.toNat
  if code < 0xC0 then
    [character]
  else if hangulFirst ≤ code ∧ code < hangulFirst + hangulCount then
    (hangulParts (code - hangulFirst)).map Char.ofNat
  else
    match Decomposition.table.lookup code with
    | some parts => parts.map Char.ofNat
    | none => [character]

/-- Put a character in front of an ordered text: a mark moves behind the marks of smaller class
that follow it. -/
def insertMark (mark : Char) : List Char → List Char
  | [] => [mark]
  | next :: rest =>
      if 0 < combiningClass next ∧ combiningClass next < combiningClass mark then
        next :: insertMark mark rest
      else
        mark :: next :: rest

/-- Put neighbouring marks into the order of their classes. -/
def orderMarks : List Char → List Char
  | [] => []
  | character :: rest => insertMark character (orderMarks rest)

/-- The canonical decomposition of a text. -/
def canonicalDecomposition (text : List Char) : List Char :=
  orderMarks (text.flatMap decompose)

theorem insertMark_perm (mark : Char) (text : List Char) :
    (insertMark mark text).Perm (mark :: text) := by
  induction text with
  | nil => exact List.Perm.refl _
  | cons next rest ih =>
      rw [insertMark]
      split
      · exact (ih.cons next).trans (List.Perm.swap mark next rest)
      · exact List.Perm.refl _

/-- Ordering the marks neither adds nor loses a character. -/
theorem orderMarks_perm (text : List Char) : (orderMarks text).Perm text := by
  induction text with
  | nil => exact List.Perm.refl _
  | cons character rest ih => exact (insertMark_perm character _).trans (ih.cons character)

end Text
end Luso
