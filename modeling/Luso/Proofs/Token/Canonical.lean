import Luso.Proofs.Java.Words
import Luso.Proofs.Number.Plain
import Luso.Proofs.Token.Lexeme

/-!
# Canonical lexemes

A token is displayed in a canonical spelling, which need not be the lexeme that it was read from.  Words
and signs are displayed as they are.  An integer may have lost zeros in front of it.  A number with a
decimal point keeps its lexeme only if it is of moderate size, and the lexeme shows its shortest decimal
with no zero too many.
-/

namespace Luso

/-! ## Numbers with a decimal point -/

/-- The text shows the shortest decimal of a number of moderate size, with no zero too many. -/
structure Binary64.IsShownBy (value : Binary64) (text : List Char) : Prop where
  /-- The number is of moderate size. -/
  moderate : value.IsModerate
  /-- There is no zero too many at either end. -/
  plain : ∃ whole fraction, text = whole ++ '.' :: fraction ∧ IsPlain whole fraction
  /-- The text shows the shortest decimal. -/
  shortest : ∃ magnitude : Magnitude, value = .finite false magnitude ∧
    (Decimal.ofText text).value = magnitude.shortest.value

theorem Decimal.exponent_mem_writeScientific (digits : List Char) (exponent : Int) :
    'e' ∈ writeScientific digits exponent := by
  simp [writeScientific]

/-- Digits around a decimal point are how a number is written exactly if they show its shortest
decimal. -/
theorem Binary64.IsLiteral.write_eq_iff {value : Binary64} {whole fraction : List Char}
    (isLiteral : value.IsLiteral) (wholeAll : ∀ character ∈ whole, character.isDigit = true)
    (fractionAll : ∀ character ∈ fraction, character.isDigit = true) :
    value.write = whole ++ '.' :: fraction ↔ value.IsShownBy (whole ++ '.' :: fraction) := by
  constructor
  · intro written
    cases isLiteral with
    | finite magnitude =>
        rw [write, if_neg Bool.false_ne_true] at written
        have moderate : (Binary64.finite false magnitude).IsModerate := by
          by_contra immoderate
          obtain ⟨digits, exponent, write_eq, -⟩ := Magnitude.write_of_not_isModerate immoderate
          have member := Decimal.exponent_mem_writeScientific digits exponent
          rw [← write_eq, written, List.mem_append, List.mem_cons] at member
          rcases member with inWhole | point | inFraction
          · exact not_mem_of_isDigit rfl wholeAll inWhole
          · cases point
          · exact not_mem_of_isDigit rfl fractionAll inFraction
        obtain ⟨whole', fraction', write_eq, plain⟩ := Magnitude.exists_isPlain_of_isModerate moderate
        exact
          { moderate
            plain := ⟨whole', fraction', written.symm.trans write_eq, plain⟩
            shortest := ⟨magnitude, rfl, by rw [← written, Decimal.value_ofText_write]⟩ }
    | infinite =>
        have point : '.' ∈ (Binary64.infinite false).write := by
          rw [written]
          simp
        exact absurd point (by decide)
  · rintro ⟨moderate, ⟨front, back, text_eq, plain⟩, magnitude, rfl, value_eq⟩
    obtain ⟨whole', fraction', write_eq, plain'⟩ := Magnitude.exists_isPlain_of_isModerate moderate
    rw [text_eq] at value_eq ⊢
    rw [write, if_neg Bool.false_ne_true, write_eq]
    rw [← magnitude.shortest.value_ofText_write, write_eq] at value_eq
    obtain ⟨rfl, rfl⟩ := plain.unique plain' value_eq
    rfl

/-! ## Tokens -/

/-- The lexeme of the token is the spelling that the token is displayed in. -/
def IsCanonical (lexeme : List Char) : Token → Prop
  | .integer _ => lexeme = ['0'] ∨ lexeme.head? ≠ some '0'
  | .decimal value => value.IsShownBy lexeme
  | .keyword _ | .identifier _ | .operator _ | .punctuation _ => True

/-- A token is displayed as its lexeme exactly if the lexeme is canonical. -/
theorem Classifies.text_eq_iff {lexeme : List Char} {token : Token}
    (classified : Classifies lexeme token) :
    token.text = String.ofList lexeme ↔ IsCanonical lexeme token := by
  cases classified with
  | keyword word => exact iff_of_true String.ofList_toList.symm trivial
  | identifier => exact iff_of_true rfl trivial
  | operator sign => exact iff_of_true String.singleton_eq_ofList trivial
  | punctuation mark => exact iff_of_true String.singleton_eq_ofList trivial
  | @integer _ value digits value_eq =>
      have written : writeInt value.toInt = Nat.toDigits 10 (ofDigits lexeme) := by
        rw [value_eq, writeInt, if_neg (by omega), Int.natAbs_natCast]
        rfl
      rw [Token.text, intText, String.ofList_inj, written]
      exact toDigits_ofDigits_iff digits.2 digits.1
  | @decimal whole fraction digits fractionAll =>
      rw [Token.text, Binary64.text, String.ofList_inj]
      exact (Binary64.isLiteral_ofDecimal _ _).write_eq_iff digits.2 fractionAll

end Luso
