import Luso.Proofs.Text.Ascii

/-!
# What is left of a letter

Accents are removed character by character: ordering the marks of a decomposed text never moves an
ASCII character past another one.  A letter leaves letters from A to Z behind, if anything at all, and a
digit leaves itself.
-/

namespace Luso
namespace Text

variable {character : Char} {text : List Char}

/-- What is left of a character when accents are removed. -/
def residue (character : Char) : List Char :=
  (decompose character).filter isAscii

/-! ## Character by character -/

theorem isAscii_of_combiningClass_pos (isMark : 0 < combiningClass character) :
    isAscii character = false := by
  cases ascii : isAscii character with
  | false => rfl
  | true =>
      rw [combiningClass_of_isAscii ascii] at isMark
      exact absurd isMark (Nat.lt_irrefl 0)

/-- A mark moves behind other marks only, and none of them is ASCII. -/
theorem filter_insertMark (mark : Char) (text : List Char) :
    (insertMark mark text).filter isAscii = (mark :: text).filter isAscii := by
  induction text with
  | nil => rfl
  | cons next rest induction =>
      rw [insertMark]
      split
      · rename_i moves
        have next_eq := isAscii_of_combiningClass_pos moves.1
        have mark_eq := isAscii_of_combiningClass_pos (Nat.lt_trans moves.1 moves.2)
        simp only [List.filter_cons, next_eq, mark_eq, induction, Bool.false_eq_true, if_false]
      · rfl

theorem filter_orderMarks (text : List Char) :
    (orderMarks text).filter isAscii = text.filter isAscii := by
  induction text with
  | nil => rfl
  | cons character rest induction =>
      rw [orderMarks, filter_insertMark, List.filter_cons, induction, List.filter_cons]

theorem toList_removeAccents (text : String) :
    (removeAccents text).toList = text.toList.flatMap residue := by
  rw [removeAccents, String.toList_ofList, canonicalDecomposition, filter_orderMarks,
    List.filter_flatMap]
  rfl

/-! ## Letters and digits -/

theorem residue_of_isAscii (ascii : isAscii character = true) : residue character = [character] := by
  rw [residue, decompose_of_isAscii ascii, List.filter_cons_of_pos ascii, List.filter_nil]

theorem isDigit_eq : isDigit character = character.isDigit := rfl

theorem residue_of_isDigit (digit : isDigit character = true) : residue character = [character] := by
  refine residue_of_isAscii (isAscii_of_isAlphanum ?_)
  rw [Char.isAlphanum, ← isDigit_eq, digit, Bool.or_true]

theorem isUpper_of_toNat (least : 0x41 ≤ character.toNat) (greatest : character.toNat ≤ 0x5A) :
    character.isUpper = true :=
  decide_eq_true ⟨UInt32.le_iff_toNat_le.mpr least, UInt32.le_iff_toNat_le.mpr greatest⟩

theorem isLower_of_toNat (least : 0x61 ≤ character.toNat) (greatest : character.toNat ≤ 0x7A) :
    character.isLower = true :=
  Bool.and_eq_true_iff.mpr
    ⟨decide_eq_true (UInt32.le_iff_toNat_le.mpr least),
      decide_eq_true (UInt32.le_iff_toNat_le.mpr greatest)⟩

/-- The ASCII letters are those from A to Z and from a to z. -/
theorem isAlpha_of_isLetter (letter : isLetter character = true)
    (ascii : isAscii character = true) : character.isAlpha = true := by
  have bound : character.toNat < 128 := of_decide_eq_true ascii
  have below : character.toNat < 0xAA := Nat.lt_trans bound (by decide)
  rw [isLetter, letters, CodeSet.contains, CodeSet.contains, CodeSet.contains,
    if_pos below] at letter
  simp only [Bool.or_false, Bool.if_false_left, Bool.and_eq_true, Bool.not_eq_true',
    decide_eq_false_iff_not, Nat.not_lt, Bool.or_eq_true, decide_eq_true_eq] at letter
  obtain ⟨least, upper | lower⟩ := letter
  · exact Bool.or_eq_true_iff.mpr (.inl (isUpper_of_toNat least upper))
  · exact Bool.or_eq_true_iff.mpr (.inr (isLower_of_toNat lower.1 lower.2))

theorem toNat_ofNat_of_lt {code : Nat} (bound : code < 0xD800) :
    (Char.ofNat code).toNat = code := by
  have valid : code.isValidChar := .inl bound
  rw [Char.ofNat, dif_pos valid]
  rfl

theorem le_of_mem_hangulParts {index part : Nat} (bound : index < hangulCount)
    (member : part ∈ hangulParts index) : 0x1100 ≤ part ∧ part < 0xD800 := by
  rw [hangulCount] at bound
  rw [hangulParts] at member
  split at member
  all_goals
    simp only [List.mem_cons, List.not_mem_nil, or_false] at member
    omega

/-- The ASCII characters among those that a letter stands for are letters. -/
theorem isAlpha_of_mem_table : ∀ entry ∈ Decomposition.table,
    (∀ part ∈ entry.2, isAscii (Char.ofNat part) = true → (Char.ofNat part).isAlpha = true) ∨
      letters.contains entry.1 = false := by
  decide +kernel

/-- A letter leaves nothing behind but letters. -/
theorem isAlpha_of_mem_residue (letter : isLetter character = true) {left : Char}
    (member : left ∈ residue character) : left.isAlpha = true := by
  obtain ⟨part, ascii⟩ := List.mem_filter.mp member
  rw [decompose] at part
  split at part
  · obtain rfl := List.mem_singleton.mp part
    exact isAlpha_of_isLetter letter ascii
  · split at part
    · rename_i hangul
      obtain ⟨code, code_mem, rfl⟩ := List.mem_map.mp part
      have range := le_of_mem_hangulParts (by omega) code_mem
      have bound := of_decide_eq_true ascii
      rw [toNat_ofNat_of_lt range.2] at bound
      omega
    · split at part
      · rename_i parts found
        obtain ⟨code, code_mem, rfl⟩ := List.mem_map.mp part
        obtain ⟨front, behind, table_eq, -⟩ := List.lookup_eq_some_iff.mp found
        have entry_mem : (character.toNat, parts) ∈ Decomposition.table := by
          rw [table_eq]
          exact List.mem_append_right front List.mem_cons_self
        rcases isAlpha_of_mem_table _ entry_mem with alpha | noLetter
        · exact alpha code code_mem ascii
        · exact absurd letter (by simp [isLetter, noLetter])
      · obtain rfl := List.mem_singleton.mp part
        exact isAlpha_of_isLetter letter ascii

end Text
end Luso
