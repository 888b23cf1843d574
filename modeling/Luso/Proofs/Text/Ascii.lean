import Luso.Text.Accents
import Luso.Text.Letter

/-!
# ASCII texts

Nothing happens to an ASCII text when its accents are removed.  The ASCII letters and digits are among
those that words are made of.
-/

namespace Luso
namespace Text

variable {character mark : Char} {text : List Char}

/-! ## Accents -/

theorem decompose_of_isAscii (ascii : isAscii character = true) :
    decompose character = [character] := by
  have bound : character.toNat < 0xC0 := by
    have := of_decide_eq_true ascii
    omega
  simp [decompose, bound]

theorem flatMap_decompose_of_isAscii (ascii : ∀ character ∈ text, isAscii character = true) :
    text.flatMap decompose = text := by
  induction text with
  | nil => rfl
  | cons character rest induction =>
      rw [List.forall_mem_cons] at ascii
      rw [List.flatMap_cons, decompose_of_isAscii ascii.1, induction ascii.2]
      rfl

theorem le_of_mem_combiningClasses :
    ∀ range ∈ combiningClasses, 0x300 ≤ range.1 := by
  decide +kernel

/-- No ASCII character is a mark. -/
theorem combiningClass_of_isAscii (ascii : isAscii character = true) :
    combiningClass character = 0 := by
  have bound := of_decide_eq_true ascii
  rw [combiningClass]
  split
  · rename_i found
    have least := le_of_mem_combiningClasses _ (List.mem_of_find?_eq_some found)
    have inRange := List.find?_some found
    simp only [Bool.and_eq_true, decide_eq_true_eq] at inRange
    omega
  · rfl

theorem insertMark_of_head? (noMark : ∀ next ∈ text.head?, combiningClass next = 0) :
    insertMark mark text = mark :: text := by
  cases text with
  | nil => rfl
  | cons next rest => simp [insertMark, noMark next rfl]

/-- Where there are no marks, none has to be moved. -/
theorem orderMarks_of_noMark (noMark : ∀ character ∈ text, combiningClass character = 0) :
    orderMarks text = text := by
  induction text with
  | nil => rfl
  | cons character rest induction =>
      rw [List.forall_mem_cons] at noMark
      rw [orderMarks, induction noMark.2]
      exact insertMark_of_head? fun next here => noMark.2 next (List.mem_of_mem_head? here)

theorem removeAccents_of_isAscii {text : String}
    (ascii : ∀ character ∈ text.toList, isAscii character = true) : removeAccents text = text := by
  have ordered : orderMarks text.toList = text.toList :=
    orderMarks_of_noMark fun character member => combiningClass_of_isAscii (ascii character member)
  rw [removeAccents, canonicalDecomposition, flatMap_decompose_of_isAscii ascii, ordered,
    List.filter_eq_self.mpr ascii, String.ofList_toList]

/-! ## Letters and digits -/

theorem toNat_of_isUpper (upper : character.isUpper = true) :
    0x41 ≤ character.toNat ∧ character.toNat ≤ 0x5A := by
  obtain ⟨least, greatest⟩ := of_decide_eq_true upper
  exact ⟨UInt32.le_iff_toNat_le.mp least, UInt32.le_iff_toNat_le.mp greatest⟩

theorem toNat_of_isLower (lower : character.isLower = true) :
    0x61 ≤ character.toNat ∧ character.toNat ≤ 0x7A := by
  obtain ⟨least, greatest⟩ := Bool.and_eq_true_iff.mp lower
  exact ⟨UInt32.le_iff_toNat_le.mp (of_decide_eq_true least),
    UInt32.le_iff_toNat_le.mp (of_decide_eq_true greatest)⟩

theorem toNat_of_isDigit (digit : character.isDigit = true) :
    0x30 ≤ character.toNat ∧ character.toNat ≤ 0x39 := by
  obtain ⟨least, greatest⟩ := Bool.and_eq_true_iff.mp digit
  exact ⟨UInt32.le_iff_toNat_le.mp (of_decide_eq_true least),
    UInt32.le_iff_toNat_le.mp (of_decide_eq_true greatest)⟩

/-- The letters from A to Z and from a to z are the first two ranges of letters. -/
theorem isLetter_of_isAlpha (alpha : character.isAlpha = true) : isLetter character = true := by
  rw [isLetter, letters, CodeSet.contains, CodeSet.contains]
  rcases Bool.or_eq_true_iff.mp alpha with upper | lower
  · have range := toNat_of_isUpper upper
    rw [if_neg (by omega), Bool.or_eq_true]
    exact .inl (decide_eq_true range.2)
  · have range := toNat_of_isLower lower
    rw [if_neg (by omega), if_neg (by omega), Bool.or_eq_true, Bool.or_eq_true]
    exact .inr (.inl (decide_eq_true range.2))

theorem isDigit_of_isDigit (digit : character.isDigit = true) : isDigit character = true := by
  obtain ⟨least, greatest⟩ := Bool.and_eq_true_iff.mp digit
  rw [isDigit, Bool.and_eq_true]
  exact ⟨least, greatest⟩

theorem isWordTail_of_isAlphanum (alphanum : character.isAlphanum = true) :
    isWordTail character = true := by
  rw [isWordTail, Bool.or_eq_true]
  rcases Bool.or_eq_true_iff.mp alphanum with alpha | digit
  · exact .inl (isLetter_of_isAlpha alpha)
  · exact .inr (isDigit_of_isDigit digit)

theorem isAscii_of_isAlphanum (alphanum : character.isAlphanum = true) :
    isAscii character = true := by
  rw [isAscii, decide_eq_true_eq]
  rcases Bool.or_eq_true_iff.mp alphanum with alpha | digit
  · rcases Bool.or_eq_true_iff.mp alpha with upper | lower
    · exact Nat.lt_of_le_of_lt (toNat_of_isUpper upper).2 (by decide)
    · exact Nat.lt_of_le_of_lt (toNat_of_isLower lower).2 (by decide)
  · exact Nat.lt_of_le_of_lt (toNat_of_isDigit digit).2 (by decide)

end Text
end Luso
