import Luso.Proofs.Java.Legible
import Luso.Proofs.Number.Plain
import Luso.Proofs.Syntax.WellFormed
import Luso.Proofs.Token.Arrangement

/-!
# Tokens written in a row

The tokens of a text, written one behind the other with spaces between them, split into these tokens
again unless a number among them is written with an exponent or infinite.  Such a number falls apart:
the exponent is no part of a number but a word, and infinity is written as a word from the beginning.
-/

namespace Luso

/-- The texts of tokens with single spaces between them. -/
def displayed (tokens : List Token) : String :=
  " ".intercalate (tokens.map Token.text)

/-! ## Numbers without an exponent -/

/-- Digits around a decimal point are the number that they are read as. -/
theorem SpellsAhead.point {whole fraction : List Char} (nonempty : whole ≠ [])
    (wholeAll : ∀ character ∈ whole, character.isDigit = true)
    (fractionAll : ∀ character ∈ fraction, character.isDigit = true) :
    SpellsAhead (whole ++ '.' :: fraction)
      [.decimal (Decimal.ofText (whole ++ '.' :: fraction)).toBinary64] := by
  rw [Decimal.ofText_point wholeAll fractionAll]
  have isDigits : IsDigits whole :=
    ⟨nonempty, fun character member => Text.isDigit_of_isDigit (wholeAll character member)⟩
  exact .decimal isDigits fun character member =>
    Text.isDigit_of_isDigit (fractionAll character member)

/-- A number with a decimal point is a token. -/
theorem tokenize_point {whole fraction : List Char} (nonempty : whole ≠ [])
    (wholeAll : ∀ character ∈ whole, character.isDigit = true)
    (fractionAll : ∀ character ∈ fraction, character.isDigit = true) :
    tokenize (String.ofList (whole ++ '.' :: fraction)) =
      .ok [.decimal (Binary64.ofDecimal false (ofDigits (whole ++ fraction)) (-fraction.length))] := by
  have spells := SpellsAhead.point nonempty wholeAll fractionAll [] [] .nil .nil
  rw [Decimal.ofText_point wholeAll fractionAll, List.append_nil] at spells
  exact spells.tokenize_eq

/-! ## Numbers with an exponent -/

/-- No reserved word starts with this letter. -/
theorem Keyword.spelling_ne_cons_exponent (word : Keyword) (tail : List Char) :
    word.spelling.toList ≠ 'e' :: tail := by
  rcases word with (_ | _) | _
  all_goals rintro ⟨⟩

theorem isWord_exponent {tail : List Char}
    (all : ∀ character ∈ tail, Text.isDigit character = true) : IsWord ('e' :: tail) := by
  refine ⟨'e', tail, rfl, rfl, fun character member => ?_⟩
  rw [Text.isWordTail, all character member, Bool.or_true]

/-- An exponent starts with a word. -/
theorem SpellsAhead.exponent {exponent : Int} (bound : -(Binary64.places : Int) ≤ exponent) :
    ∃ name rest, SpellsAhead ('e' :: Luso.writeInt exponent) (.identifier name :: rest) := by
  have digits (value : Nat) : IsDigits (Nat.toDigits 10 value) :=
    ⟨Nat.toDigits_ne_nil, fun _ member =>
      Text.isDigit_of_isDigit (Nat.isDigit_of_mem_toDigits (by decide) (by decide) member)⟩
  rw [Luso.writeInt]
  split
  · -- The minus sign ends the word.
    have small : Nat.ofDigitChars 10 (Nat.toDigits 10 exponent.natAbs) 0 ≤ Lexeme.greatestInteger := by
      rw [Nat.ofDigitChars_ten_toDigits, Lexeme.greatestInteger]
      rw [Binary64.places] at bound
      omega
    obtain ⟨token, classified⟩ := (IsLexeme.integer (digits _) small).exists_classifies
    refine ⟨String.ofList ['e'], [.operator (.arithmetic .subtract), token],
      fun behind rest boundary spells => ?_⟩
    have sign := (spells.classified classified (boundary.closes _)).operator (.arithmetic .subtract)
    have word := Classifies.identifier (isWord_exponent (List.forall_mem_nil _))
      fun reserved => reserved.spelling_ne_cons_exponent []
    have closes : Closes ('-' :: (Nat.toDigits 10 exponent.natAbs ++ behind)) ['e'] :=
      closes_of_inert rfl (by decide) _
    have split := sign.classified word closes
    exact split
  · exact ⟨_, [], .of_classifies (.identifier (isWord_exponent (digits _).2)
      fun reserved => reserved.spelling_ne_cons_exponent _)⟩

/-- A number with an exponent falls apart into several tokens. -/
theorem SpellsAhead.scientific {digits : List Char} {exponent : Int} (nonempty : digits ≠ [])
    (all : ∀ character ∈ digits, character.isDigit = true)
    (bound : -(Binary64.places : Int) ≤ exponent) :
    ∃ number name rest, SpellsAhead (Decimal.writeScientific digits exponent)
      (number :: .identifier name :: rest) := by
  obtain ⟨name, rest, power⟩ := SpellsAhead.exponent bound
  obtain ⟨first, tail, rfl⟩ := List.exists_cons_of_ne_nil nonempty
  obtain ⟨firstDigit, tailAll⟩ := List.forall_mem_cons.mp all
  have firstDigits : IsDigits [first] :=
    ⟨List.cons_ne_nil _ _, List.forall_mem_singleton.mpr (Text.isDigit_of_isDigit firstDigit)⟩
  have mantissa : ∃ token, Classifies ([first] ++ if tail = [] then [] else '.' :: tail) token := by
    split
    · refine (IsLexeme.integer firstDigits ?_).exists_classifies
      obtain ⟨-, le⟩ := Text.toNat_of_isDigit firstDigit
      simp [Nat.ofDigitChars_cons, Lexeme.greatestInteger]
      omega
    · exact (IsLexeme.decimal firstDigits fun character member =>
        Text.isDigit_of_isDigit (tailAll character member)).exists_classifies
  obtain ⟨number, classified⟩ := mantissa
  refine ⟨number, name, rest, fun behind others boundary spells => ?_⟩
  have closes : Closes ('e' :: (Luso.writeInt exponent ++ behind))
      ([first] ++ if tail = [] then [] else '.' :: tail) := by
    rintro next ⟨⟩
    refine ⟨fun word => ?_, fun _ => ⟨rfl, by decide⟩⟩
    have letter := word.isLetter (List.prefix_refl (first :: _))
    rw [isLetter_of_isDigit (Text.isDigit_of_isDigit firstDigit)] at letter
    cases letter
  have split := (power behind others boundary spells).classified classified closes
  rw [Decimal.writeScientific, List.append_assoc]
  exact split

/-! ## Single tokens -/

/-- The text of a number that a literal stands for splits into this number alone exactly if it is
moderate. -/
theorem exists_spellsAhead_write {value : Binary64} (isLiteral : value.IsLiteral) :
    ∃ found, SpellsAhead value.write found ∧ found ≠ [] ∧
      (found = [.decimal value] ↔ value.IsModerate) := by
  cases isLiteral with
  | finite magnitude =>
      rw [Binary64.write, if_neg Bool.false_ne_true]
      by_cases moderate : (Binary64.finite false magnitude).IsModerate
      · obtain ⟨whole, fraction, write_eq, plain⟩ := Magnitude.exists_isPlain_of_isModerate moderate
        have spells := SpellsAhead.point plain.whole_ne_nil plain.wholeAll plain.fractionAll
        rw [← write_eq, magnitude.toBinary64_ofText_write] at spells
        exact ⟨_, spells, List.cons_ne_nil _ _, iff_of_true rfl moderate⟩
      · obtain ⟨digits, exponent, write_eq, nonempty, all, bound⟩ :=
          Magnitude.write_of_not_isModerate moderate
        obtain ⟨number, name, rest, spells⟩ := SpellsAhead.scientific nonempty all bound
        rw [← write_eq] at spells
        exact ⟨_, spells, List.cons_ne_nil _ _, iff_of_false (by rintro ⟨⟩) moderate⟩
  | infinite =>
      rw [Binary64.write, if_neg Bool.false_ne_true]
      have word : IsWord ['i', 'n', 'f'] := ⟨'i', ['n', 'f'], rfl, rfl, List.all_eq_true.mp rfl⟩
      have notReserved (reserved : Keyword) : reserved.spelling.toList ≠ ['i', 'n', 'f'] := by
        rcases reserved with (_ | _) | _ <;> decide
      exact ⟨_, .of_classifies (.identifier word notReserved), List.cons_ne_nil _ _,
        iff_of_false (by rintro ⟨⟩) id⟩

/-- The text of a token splits into this token alone, unless it is a number that is not moderate. -/
theorem exists_spellsAhead_text {token : Token} (wellFormed : token.WellFormed) :
    ∃ found, SpellsAhead token.text.toList found ∧ found ≠ [] ∧
      (found = [token] ↔ ∀ value, .decimal value = token → value.IsModerate) := by
  have single (spells : SpellsAhead token.text.toList [token]) (noDecimal : token.kind ≠ .decimal) :
      ∃ found, SpellsAhead token.text.toList found ∧ found ≠ [] ∧
        (found = [token] ↔ ∀ value, .decimal value = token → value.IsModerate) := by
    refine ⟨_, spells, List.cons_ne_nil _ _, iff_of_true rfl ?_⟩
    rintro value rfl
    exact absurd rfl noDecimal
  cases token with
  | keyword word => exact single (.of_classifies (.keyword word)) (by rintro ⟨⟩)
  | identifier name => exact single (.identifier wellFormed.1 wellFormed.2) (by rintro ⟨⟩)
  | integer value =>
      refine single ?_ (by rintro ⟨⟩)
      rw [Token.text, intText, String.toList_ofList]
      exact .writeInt wellFormed.1
  | operator sign =>
      refine single ?_ (by rintro ⟨⟩)
      rw [Token.text, String.toList_singleton]
      exact .of_classifies (.operator sign)
  | punctuation mark =>
      refine single ?_ (by rintro ⟨⟩)
      rw [Token.text, String.toList_singleton]
      exact .of_classifies (.punctuation mark)
  | decimal value =>
      obtain ⟨found, spells, nonempty, same⟩ := exists_spellsAhead_write wellFormed
      refine ⟨found, ?_, nonempty, same.trans ?_⟩
      · rwa [Token.text, Binary64.text, String.toList_ofList]
      · constructor
        · rintro moderate _ ⟨⟩
          exact moderate
        · exact fun moderate => moderate value rfl

/-! ## Rows of tokens -/

theorem displayed_nil : (displayed []).toList = [] := by
  rw [displayed, String.toList_intercalate]
  rfl

/-- What stands behind the first token: nothing or a space and the other tokens. -/
theorem displayed_cons (token : Token) (rest : List Token) :
    (displayed (token :: rest)).toList =
      token.text.toList ++ if rest = [] then [] else ' ' :: (displayed rest).toList := by
  rw [displayed, displayed, String.toList_intercalate, String.toList_intercalate]
  cases rest with
  | nil => simp
  | cons next others => simp

/-- A list of two parts is another one only part by part, if neither part is shorter. -/
theorem append_eq_cons_iff_of_length_le {α : Type} {first others rest : List α} {head : α}
    (nonempty : first ≠ []) (length_le : rest.length ≤ others.length) :
    first ++ others = head :: rest ↔ first = [head] ∧ others = rest := by
  constructor
  · intro same
    obtain ⟨front, tail, rfl⟩ := List.exists_cons_of_ne_nil nonempty
    obtain ⟨rfl, tail_eq⟩ := List.cons.inj same
    have tail_nil : tail = [] := by
      have lengths := congrArg List.length tail_eq
      rw [List.append_eq, List.length_append] at lengths
      exact List.eq_nil_of_length_eq_zero (by omega)
    exact ⟨by rw [tail_nil], by rwa [tail_nil] at tail_eq⟩
  · rintro ⟨rfl, rfl⟩
    rfl

/-- A token may fall apart, but none vanishes; so a row is read as it was only if none falls apart. -/
theorem exists_spells_displayed {tokens : List Token}
    (wellFormed : ∀ token ∈ tokens, token.WellFormed) :
    ∃ found, Spells (displayed tokens).toList found ∧ tokens.length ≤ found.length ∧
      (found = tokens ↔ ∀ value, .decimal value ∈ tokens → value.IsModerate) := by
  induction tokens with
  | nil => exact ⟨[], displayed_nil ▸ .nil, Nat.le_refl _, iff_of_true rfl (by simp)⟩
  | cons token rest induction =>
      obtain ⟨here, behind⟩ := List.forall_mem_cons.mp wellFormed
      obtain ⟨first, ahead, nonempty, first_iff⟩ := exists_spellsAhead_text here
      obtain ⟨others, spells, length_le, others_iff⟩ := induction behind
      refine ⟨first ++ others, ?_, ?_, ?_⟩
      · rw [displayed_cons]
        split
        · rename_i last
          rw [last, displayed_nil] at spells
          exact ahead _ _ .nil spells
        · exact ahead _ _ .space (spells.blank rfl)
      · have first_pos := List.length_pos_iff.mpr nonempty
        rw [List.length_cons, List.length_append]
        omega
      · rw [append_eq_cons_iff_of_length_le nonempty length_le, first_iff, others_iff]
        simp only [List.mem_cons, or_imp, forall_and]

/-- The tokens of a text split into themselves again, when they are written with spaces between them,
exactly if all decimal numbers among them are zero or between `10 ^ -4` and `10 ^ 16`. -/
theorem tokenize_displayed {source : String} {tokens : List Token}
    (split : tokenize source = .ok tokens) :
    tokenize (displayed tokens) = .ok tokens ↔
      ∀ value, .decimal value ∈ tokens → value.IsModerate := by
  obtain ⟨found, spells, -, found_iff⟩ :=
    exists_spells_displayed (Token.wellFormed_of_tokenize split)
  have again := spells.tokenize_eq
  rw [String.ofList_toList] at again
  rw [again, Except.ok.injEq, found_iff]

/-- Zeros at the end of a number are lost on the way, but the number stays the same. -/
theorem tokenize_displayed_shortened :
    tokenize "1.50" = .ok [.decimal (Binary64.ofDecimal false 150 (-2))] ∧
      tokenize (displayed [.decimal (Binary64.ofDecimal false 150 (-2))]) =
        .ok [.decimal (Binary64.ofDecimal false 150 (-2))] := by
  have split : tokenize "1.50" = .ok [.decimal (Binary64.ofDecimal false 150 (-2))] := by
    have split := @tokenize_point ['1'] ['5', '0'] (List.cons_ne_nil _ _) (List.all_eq_true.mp rfl)
      (List.all_eq_true.mp rfl)
    rw [show ofDigits (['1'] ++ ['5', '0']) = 150 from rfl] at split
    exact split
  refine ⟨split, (tokenize_displayed split).mpr fun value member => ?_⟩
  rw [Token.decimal.inj (List.mem_singleton.mp member)]
  decide +kernel

/-- A great number that is written without an exponent is shown with one, and its digit and the exponent
are read as two tokens. -/
theorem tokenize_displayed_tenQuadrillion :
    tokenize "10000000000000000." = .ok [.decimal (.finite false Magnitude.plainLimit)] ∧
      displayed [.decimal (.finite false Magnitude.plainLimit)] = "1e16" ∧
      tokenize "1e16" = .ok [.integer 1, .identifier "e16"] ∧
      tokenize (displayed [.decimal (.finite false Magnitude.plainLimit)]) ≠
        .ok [.decimal (.finite false Magnitude.plainLimit)] := by
  have write_eq : (Binary64.finite false Magnitude.plainLimit).write = ['1', 'e', '1', '6'] := by
    decide +kernel
  have value_eq : Binary64.ofDecimal false 10000000000000000 0 =
      .finite false Magnitude.plainLimit := by
    decide +kernel
  have split : tokenize "10000000000000000." =
      .ok [.decimal (.finite false Magnitude.plainLimit)] := by
    have split := @tokenize_point "10000000000000000".toList [] (by decide)
      (List.all_eq_true.mp rfl) (List.forall_mem_nil _)
    rw [show ofDigits ("10000000000000000".toList ++ []) = 10000000000000000 from rfl] at split
    rw [← value_eq]
    exact split
  have shown : displayed [.decimal (.finite false Magnitude.plainLimit)] = "1e16" := by
    rw [displayed, List.map_singleton, Token.text, Binary64.text, write_eq]
    rfl
  have again : tokenize "1e16" = .ok [.integer 1, .identifier "e16"] := by cbv
  refine ⟨split, shown, again, ?_⟩
  rw [shown, again]
  rintro ⟨⟩

end Luso
