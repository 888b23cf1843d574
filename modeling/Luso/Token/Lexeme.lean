import Luso.Text.Letter
import Luso.Token.Basic

/-!
# Lexemes

A lexeme is a stretch of source text that makes up one token.  Words and numbers are taken as long
as possible; operators and punctuation marks are single characters.
-/

namespace Luso

/-- A stretch of source text, by its shape. -/
inductive Lexeme where
  /-- A letter and the letters and digits after it. -/
  | word (text : List Char)
  /-- Digits and, if there is a decimal point, the digits after it. -/
  | number (whole : List Char) (fraction : Option (List Char))
  /-- An operator. -/
  | operator (sign : Operator)
  /-- A punctuation mark. -/
  | punctuation (mark : Punctuation)
deriving DecidableEq

namespace Lexeme

/-- The characters of a lexeme. -/
def text : Lexeme → List Char
  | .word text => text
  | .number whole none => whole
  | .number whole (some fraction) => whole ++ '.' :: fraction
  | .operator sign => [sign.symbol]
  | .punctuation mark => [mark.symbol]

/-- The number at the start of a text that starts with a digit.  Only one decimal point belongs
to it. -/
def numberAt (text : List Char) : Lexeme :=
  let whole := text.takeWhile Text.isDigit
  match text.dropWhile Text.isDigit with
  | '.' :: rest => .number whole (some (rest.takeWhile Text.isDigit))
  | _ => .number whole none

/-- The longest lexeme at the start of a text, if there is one. -/
def longest? : List Char → Option Lexeme
  | [] => none
  | first :: rest =>
      if Text.isLetter first then
        some (.word (first :: rest.takeWhile Text.isWordTail))
      else if Text.isDigit first then
        some (numberAt (first :: rest))
      else
        match Punctuation.ofSymbol? first with
        | some mark => some (.punctuation mark)
        | none => (Operator.ofSymbol? first).map .operator

/-- The greatest integer literal, and the greatest 32-bit integer. -/
def greatestInteger : Nat := 2147483647

/-- The token that a lexeme stands for.  Only an integer beyond 32 bits stands for none. -/
def token? : Lexeme → Option Token
  | .word text =>
      match Keyword.ofSpelling? (String.ofList text) with
      | some keyword => some (.keyword keyword)
      | none => some (.identifier (String.ofList text))
  | .number whole none =>
      let value := Nat.ofDigitChars 10 whole 0
      if value ≤ greatestInteger then some (.integer (Int32.ofNat value)) else none
  | .number whole (some fraction) =>
      some (.decimal
        (Binary64.ofDecimal false (Nat.ofDigitChars 10 (whole ++ fraction) 0) (-fraction.length)))
  | .operator sign => some (.operator sign)
  | .punctuation mark => some (.punctuation mark)

/-- A lexeme has at least one character. -/
theorem text_length_pos_of_longest? {source : List Char} {lexeme : Lexeme}
    (found : longest? source = some lexeme) : 0 < lexeme.text.length := by
  cases source with
  | nil => simp [longest?] at found
  | cons first rest =>
      rw [longest?] at found
      split at found
      · obtain rfl := Option.some.inj found
        simp [text]
      · split at found
        · rename_i digit
          obtain rfl := Option.some.inj found
          have whole_pos : 0 < ((first :: rest).takeWhile Text.isDigit).length := by
            rw [List.takeWhile_cons_of_pos digit]
            exact Nat.succ_pos _
          rw [numberAt]
          split
          · simp only [text, List.length_append]
            omega
          · exact whole_pos
        · split at found
          · obtain rfl := Option.some.inj found
            exact Nat.one_pos
          · obtain ⟨sign, -, rfl⟩ := Option.map_eq_some_iff.mp found
            exact Nat.one_pos

end Lexeme
end Luso
