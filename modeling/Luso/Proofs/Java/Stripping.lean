import Luso.Proofs.Java.Naming
import Mathlib.Data.List.Chain

/-!
# Removing accents letter by letter

The canonical decomposition of two texts in a row need not be that of the first one followed by that of
the second: marks are ordered across the seam.  What is left of it in ASCII is, since no ASCII character
is a mark.  So accents are removed from each character on its own, and only letters and digits are left
of a name.
-/

namespace Luso
namespace Text

/-! ## The order of marks -/

/-- No mark stands behind a mark of greater class, unless a character that is no mark separates them. -/
def IsOrdered (text : List Char) : Prop :=
  text.IsChain fun character next =>
    combiningClass next = 0 ∨ combiningClass character ≤ combiningClass next

theorem head?_insertMark {mark first : Char} {text : List Char}
    (here : first ∈ (insertMark mark text).head?) : first = mark ∨ first ∈ text.head? := by
  cases text with
  | nil => exact .inl (Option.some.inj here).symm
  | cons next rest =>
      rw [insertMark] at here
      split at here
      · exact .inr here
      · exact .inl (Option.some.inj here).symm

theorem IsOrdered.insertMark {text : List Char} (ordered : IsOrdered text) (mark : Char) :
    IsOrdered (insertMark mark text) := by
  induction text with
  | nil => exact .singleton mark
  | cons next rest induction =>
      obtain ⟨nextFits, restOrdered⟩ := List.isChain_cons.mp ordered
      rw [Text.insertMark]
      split
      · rename_i moves
        refine List.isChain_cons.mpr ⟨fun first here => ?_, induction restOrdered⟩
        rcases head?_insertMark here with rfl | inRest
        · exact .inr (Nat.le_of_lt moves.2)
        · exact nextFits first inRest
      · rename_i stays
        refine .cons_cons ?_ ordered
        omega

theorem isOrdered_orderMarks (text : List Char) : IsOrdered (orderMarks text) := by
  induction text with
  | nil => exact .nil
  | cons character rest induction => exact induction.insertMark character

/-- A mark moves behind marks of other classes only. -/
theorem filter_class_insertMark (value : Nat) (mark : Char) (text : List Char) :
    (insertMark mark text).filter (combiningClass · == value) =
      (mark :: text).filter (combiningClass · == value) := by
  induction text with
  | nil => rfl
  | cons next rest induction =>
      rw [insertMark]
      split
      · rename_i moves
        rw [List.filter_cons, induction]
        by_cases ofValue : combiningClass next = value
        · have differs : combiningClass mark ≠ value := by omega
          simp [ofValue, differs]
        · simp [List.filter_cons, ofValue]
      · rfl

/-- Marks of one class keep their order, and so do the characters that are no marks. -/
theorem filter_class_orderMarks (value : Nat) (text : List Char) :
    (orderMarks text).filter (combiningClass · == value) =
      text.filter (combiningClass · == value) := by
  induction text with
  | nil => rfl
  | cons character rest induction =>
      rw [orderMarks, filter_class_insertMark, List.filter_cons, induction, List.filter_cons]

/-! ## Texts in a row -/

theorem removeAccents_append (front behind : String) :
    removeAccents (front ++ behind) = removeAccents front ++ removeAccents behind := by
  apply String.toList_inj.mp
  simp only [toList_removeAccents, String.toList_append, List.flatMap_append]

/-- A decomposed text followed by another one is out of order if a mark at the seam is. -/
example :
    canonicalDecomposition ['á', '\u0323'] ≠
      canonicalDecomposition ['á'] ++ canonicalDecomposition ['\u0323'] := by
  decide +kernel

theorem isAscii_of_mem_removeAccents {text : String} {left : Char}
    (member : left ∈ (removeAccents text).toList) : isAscii left = true := by
  rw [removeAccents, String.toList_ofList] at member
  exact (List.mem_filter.mp member).2

theorem removeAccents_eq_self_iff {text : String} :
    removeAccents text = text ↔ ∀ character ∈ text.toList, isAscii character = true := by
  refine ⟨fun unchanged character member => ?_, removeAccents_of_isAscii⟩
  rw [← unchanged] at member
  exact isAscii_of_mem_removeAccents member

theorem removeAccents_removeAccents (text : String) :
    removeAccents (removeAccents text) = removeAccents text :=
  removeAccents_of_isAscii fun _ => isAscii_of_mem_removeAccents

/-! ## Names -/

theorem isDigit_of_isAlpha {character : Char} (alpha : character.isAlpha = true) :
    isDigit character = false := by
  cases digit : character.isDigit with
  | false => exact digit
  | true =>
      have range := toNat_of_isDigit digit
      rcases Bool.or_eq_true_iff.mp alpha with upper | lower
      · have := toNat_of_isUpper upper
        omega
      · have := toNat_of_isLower lower
        omega

/-- What a letter leaves behind holds no digit, and a digit leaves itself behind. -/
theorem filter_isDigit_residue {character : Char} (inWord : isWordTail character = true) :
    (residue character).filter isDigit = [character].filter isDigit := by
  cases digit : isDigit character with
  | true => rw [residue_of_isDigit digit]
  | false =>
      have letter : isLetter character = true := by
        rwa [isWordTail, digit, Bool.or_false] at inWord
      have noDigit : ∀ left ∈ residue character, ¬isDigit left = true := fun left member =>
        Bool.eq_false_iff.mp (isDigit_of_isAlpha (isAlpha_of_mem_residue letter member))
      rw [List.filter_eq_nil_iff.mpr noDigit, List.filter_cons, digit]
      rfl

theorem filter_isDigit_flatMap_residue {text : List Char}
    (inWord : ∀ character ∈ text, isWordTail character = true) :
    (text.flatMap residue).filter isDigit = text.filter isDigit := by
  induction text with
  | nil => rfl
  | cons character rest induction =>
      obtain ⟨firstInWord, restInWord⟩ := List.forall_mem_cons.mp inWord
      rw [List.flatMap_cons, List.filter_append, filter_isDigit_residue firstInWord,
        induction restInWord, ← List.filter_append, List.singleton_append]

end Text

/-- Accents are removed from every part of a text on its own, and what is left is ASCII; a text that is
ASCII stays as it is, so that nothing is left to be removed.  A name that is handed out leaves letters
from A to Z and digits behind, its own digits in their order. -/
theorem removeAccents_partwise :
    (∀ front behind, Text.removeAccents (front ++ behind) =
      Text.removeAccents front ++ Text.removeAccents behind) ∧
    (∀ text, ∀ left ∈ (Text.removeAccents text).toList, Text.isAscii left = true) ∧
    (∀ text, Text.removeAccents text = text ↔
      ∀ character ∈ text.toList, Text.isAscii character = true) ∧
    (∀ text, Text.removeAccents (Text.removeAccents text) = Text.removeAccents text) ∧
    ∀ source name, .identifier name ∈ (feedOf source).tokens →
      (∀ left ∈ (Text.removeAccents name).toList, left.isAlphanum = true) ∧
        (Text.removeAccents name).toList.filter Text.isDigit = name.toList.filter Text.isDigit := by
  refine ⟨Text.removeAccents_append, fun text left => Text.isAscii_of_mem_removeAccents,
    fun text => Text.removeAccents_eq_self_iff, Text.removeAccents_removeAccents,
    fun source name member => ?_⟩
  have word := (isWord_of_mem_feedOf member).1
  refine ⟨isAlphanum_javaName word, ?_⟩
  rw [Text.toList_removeAccents, Text.filter_isDigit_flatMap_residue word.isWordTail]

/-- A name with a mark, a letter that leaves nothing behind and two digits. -/
theorem removeAccents_partwise_markedName :
    .identifier "ação2æ1" ∈ (feedOf "ação2æ1 = 1").tokens ∧
      Text.removeAccents "ação2æ1" = "acao21" ∧
      (∀ left ∈ (Text.removeAccents "ação2æ1").toList, left.isAlphanum = true) ∧
      (Text.removeAccents "ação2æ1").toList.filter Text.isDigit =
        "ação2æ1".toList.filter Text.isDigit := by
  have split : tokenize "ação2æ1 = 1" =
      .ok [.identifier "ação2æ1", .operator .assign, .integer 1] := by
    cbv
  rw [tokenize_eq_result_feedOf, Feed.result_eq_ok_iff] at split
  have member : .identifier "ação2æ1" ∈ (feedOf "ação2æ1 = 1").tokens := by
    rw [split.1]
    exact List.mem_cons_self
  obtain ⟨-, -, -, -, names⟩ := removeAccents_partwise
  exact ⟨member, by decide +kernel, names _ _ member⟩

end Luso
