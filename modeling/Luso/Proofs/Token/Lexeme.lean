import Luso.Token.Lexeme
import Mathlib.Data.List.Infix
import Mathlib.Data.List.TakeWhile

/-!
# The lexeme at a place

What a lexeme is, said without the functions that scan it: the longest word or number at the start of
a text, or a single sign where neither starts.  The scan finds exactly this lexeme, classifies it by
its spelling, and refuses only integers beyond 32 bits and characters that start nothing.
-/

namespace Luso

/-- A text of one or more digits. -/
def IsDigits (text : List Char) : Prop :=
  text ≠ [] ∧ ∀ character ∈ text, Text.isDigit character = true

/-- A letter and any number of letters and digits. -/
def IsWord (text : List Char) : Prop :=
  ∃ first tail, text = first :: tail ∧ Text.isLetter first = true ∧
    ∀ character ∈ tail, Text.isWordTail character = true

/-- Digits, and perhaps a decimal point and any number of digits behind it. -/
def IsNumber (text : List Char) : Prop :=
  IsDigits text ∨ ∃ whole fraction, text = whole ++ '.' :: fraction ∧ IsDigits whole ∧
    ∀ character ∈ fraction, Text.isDigit character = true

/-- Whether a character is an operator or a punctuation mark. -/
def IsSign (character : Char) : Prop :=
  (∃ operator : Operator, operator.symbol = character) ∨
    ∃ mark : Punctuation, mark.symbol = character

/-- The first characters of a text are its lexeme: the longest word or number there, or a sign where
there is none. -/
inductive LexemeAt (text lexeme : List Char) : Prop where
  | longest :
      lexeme <+: text → IsWord lexeme ∨ IsNumber lexeme →
      (∀ other, other <+: text → IsWord other ∨ IsNumber other → other.length ≤ lexeme.length) →
      LexemeAt text lexeme
  | sign {character} :
      (∀ other, other <+: text → ¬ (IsWord other ∨ IsNumber other)) →
      lexeme = [character] → [character] <+: text → IsSign character → LexemeAt text lexeme

/-- The token that a lexeme stands for.  A word is a keyword exactly if it is spelled like one; a
number is an integer exactly if it has no decimal point. -/
inductive Classifies : List Char → Token → Prop where
  | keyword (word : Keyword) : Classifies word.spelling.toList (.keyword word)
  | identifier {text} :
      IsWord text → (∀ word : Keyword, word.spelling.toList ≠ text) →
      Classifies text (.identifier (String.ofList text))
  | integer {digits} {value : Int32} :
      IsDigits digits → value.toInt = Nat.ofDigitChars 10 digits 0 →
      Classifies digits (.integer value)
  | decimal {whole fraction} :
      IsDigits whole → (∀ character ∈ fraction, Text.isDigit character = true) →
      Classifies (whole ++ '.' :: fraction)
        (.decimal (Binary64.ofDecimal false (Nat.ofDigitChars 10 (whole ++ fraction) 0)
          (-fraction.length)))
  | operator (sign : Operator) : Classifies [sign.symbol] (.operator sign)
  | punctuation (mark : Punctuation) : Classifies [mark.symbol] (.punctuation mark)

/-- A text starts with exactly these digits, no decimal point follows them, and their value is beyond
32 bits. -/
def Oversized (text digits : List Char) : Prop :=
  IsDigits digits ∧ Lexeme.greatestInteger < Nat.ofDigitChars 10 digits 0 ∧
    ∃ behind, text = digits ++ behind ∧
      ∀ next ∈ behind.head?, Text.isDigit next = false ∧ next ≠ '.'

/-- No lexeme, blank or comment starts with the character. -/
def StartsNothing (character : Char) : Prop :=
  Text.isLetter character = false ∧ Text.isDigit character = false ∧ ¬ IsSign character ∧
    Text.isBlank character = false ∧ character ≠ '#'

/-! ## Runs of characters -/

section Runs

variable {test : Char → Bool} {text run behind : List Char}

theorem takeWhile_run (all : ∀ character ∈ run, test character = true)
    (ends : ∀ next ∈ behind.head?, test next = false) : (run ++ behind).takeWhile test = run := by
  rw [List.takeWhile_append_of_pos all]
  cases behind with
  | nil => simp
  | cons next rest => simp [ends next rfl]

theorem dropWhile_run (all : ∀ character ∈ run, test character = true)
    (ends : ∀ next ∈ behind.head?, test next = false) :
    (run ++ behind).dropWhile test = behind := by
  rw [List.dropWhile_append_of_pos all]
  cases behind with
  | nil => rfl
  | cons next rest => simp [ends next rfl]

theorem dropWhile_head? (test : Char → Bool) (text : List Char) :
    ∀ next ∈ (text.dropWhile test).head?, test next = false := by
  intro next next_mem
  have ends := List.head?_dropWhile_not test text
  rw [Option.mem_def.mp next_mem] at ends
  exact ends

/-- No run is longer than the one that is taken. -/
theorem length_le_length_takeWhile (all : ∀ character ∈ run, test character = true)
    (behind : List Char) :
    run.length ≤ ((run ++ behind).takeWhile test).length := by
  rw [List.takeWhile_append_of_pos all, List.length_append]
  exact Nat.le_add_right _ _

end Runs

/-! ## Words and numbers -/

theorem isLetter_of_isDigit {character : Char} (digit : Text.isDigit character = true) :
    Text.isLetter character = false := by
  have bound : character.toNat < 0x41 := by
    simp only [Text.isDigit, Bool.and_eq_true, decide_eq_true_eq, Char.le_def,
      UInt32.le_iff_toNat_le] at digit
    exact Nat.lt_of_le_of_lt digit.2 (by decide)
  rw [Text.isLetter, Text.letters, Text.CodeSet.contains, if_pos bound]

theorem isDigit_of_isLetter {character : Char} (letter : Text.isLetter character = true) :
    Text.isDigit character = false := by
  cases digit : Text.isDigit character with
  | false => rfl
  | true =>
      rw [isLetter_of_isDigit digit] at letter
      cases letter

section Prefixes

variable {first : Char} {rest other lexeme : List Char}

theorem IsWord.isLetter (word : IsWord other) (front : other <+: first :: rest) :
    Text.isLetter first = true := by
  obtain ⟨letter, tail, rfl, isLetter, -⟩ := word
  obtain ⟨rfl, -⟩ := List.cons_prefix_cons.mp front
  exact isLetter

theorem IsDigits.isDigit (digits : IsDigits other) (front : other <+: first :: rest) :
    Text.isDigit first = true := by
  cases other with
  | nil => exact absurd rfl digits.1
  | cons digit tail =>
      obtain ⟨rfl, -⟩ := List.cons_prefix_cons.mp front
      exact digits.2 digit List.mem_cons_self

theorem IsNumber.isDigit (number : IsNumber other) (front : other <+: first :: rest) :
    Text.isDigit first = true := by
  rcases number with digits | ⟨whole, fraction, rfl, digits, -⟩
  · exact digits.isDigit front
  · exact digits.isDigit ((List.prefix_append _ _).trans front)

/-- The letters and digits behind a letter make up the longest word. -/
theorem lexemeAt_word (letter : Text.isLetter first = true) :
    LexemeAt (first :: rest) (first :: rest.takeWhile Text.isWordTail) := by
  refine .longest (List.cons_prefix_cons.mpr ⟨rfl, List.takeWhile_prefix _⟩) (.inl ?_) ?_
  · exact ⟨first, _, rfl, letter, fun character member => List.mem_takeWhile_imp member⟩
  · rintro other front (⟨_, tail, rfl, -, tailAll⟩ | number)
    · obtain ⟨rfl, behind, rfl⟩ := List.cons_prefix_cons.mp front
      exact Nat.succ_le_succ (length_le_length_takeWhile tailAll _)
    · exact absurd letter (by simp [isLetter_of_isDigit (number.isDigit front)])

/-- A sign is a lexeme, since no word or number starts with it. -/
theorem lexemeAt_sign (noLetter : Text.isLetter first = false) (noDigit : Text.isDigit first = false)
    (sign : IsSign first) : LexemeAt (first :: rest) [first] := by
  refine .sign ?_ rfl (List.prefix_append [first] rest) sign
  rintro other front (word | number)
  · exact absurd (word.isLetter front) (by simp [noLetter])
  · exact absurd (number.isDigit front) (by simp [noDigit])

end Prefixes

/-- The number at the start of a text, by its shape and by what follows it. -/
inductive NumberAt : List Char → Lexeme → Prop where
  | integer {digits behind} :
      IsDigits digits → (∀ next ∈ behind.head?, Text.isDigit next = false ∧ next ≠ '.') →
      NumberAt (digits ++ behind) (.number digits none)
  | decimal {whole fraction behind} :
      IsDigits whole → (∀ character ∈ fraction, Text.isDigit character = true) →
      (∀ next ∈ behind.head?, Text.isDigit next = false) →
      NumberAt (whole ++ '.' :: (fraction ++ behind)) (.number whole (some fraction))

theorem numberAt_numberAt {first : Char} (digit : Text.isDigit first = true) (rest : List Char) :
    NumberAt (first :: rest) (Lexeme.numberAt (first :: rest)) := by
  have whole_digits : IsDigits ((first :: rest).takeWhile Text.isDigit) :=
    ⟨by simp [digit], fun character member => List.mem_takeWhile_imp member⟩
  have ends := dropWhile_head? Text.isDigit (first :: rest)
  rw [Lexeme.numberAt]
  conv => arg 1; rw [← List.takeWhile_append_dropWhile (p := Text.isDigit) (l := first :: rest)]
  split
  · rename_i behind behind_eq
    rw [behind_eq]
    conv => arg 1; rw [← List.takeWhile_append_dropWhile (p := Text.isDigit) (l := behind)]
    exact .decimal whole_digits (fun character member => List.mem_takeWhile_imp member)
      (dropWhile_head? _ _)
  · rename_i noPoint
    refine .integer whole_digits fun next next_mem => ⟨ends next next_mem, ?_⟩
    rintro rfl
    obtain ⟨behind, behind_eq⟩ := List.head?_eq_some_iff.mp next_mem
    exact noPoint behind behind_eq

namespace NumberAt

variable {text other : List Char} {lexeme : Lexeme}

theorem isNumber (number : NumberAt text lexeme) : IsNumber lexeme.text := by
  cases number with
  | integer digits _ => exact .inl digits
  | decimal whole fraction _ => exact .inr ⟨_, _, rfl, whole, fraction⟩

theorem text_prefix (number : NumberAt text lexeme) : lexeme.text <+: text := by
  cases number with
  | integer => exact List.prefix_append _ _
  | decimal =>
      rw [← List.cons_append, ← List.append_assoc]
      exact List.prefix_append _ _

/-- Digits up to a decimal point are all the digits before it. -/
theorem whole_eq {whole whole' behind behind' : List Char} (digits : IsDigits whole)
    (digits' : IsDigits whole') (same : whole ++ '.' :: behind = whole' ++ '.' :: behind') :
    whole = whole' ∧ behind = behind' := by
  have ends {rest : List Char} : ∀ next ∈ ('.' :: rest).head?, Text.isDigit next = false := by
    rintro next ⟨⟩
    rfl
  have whole_eq := congrArg (List.takeWhile Text.isDigit) same
  rw [takeWhile_run digits.2 ends, takeWhile_run digits'.2 ends] at whole_eq
  subst whole_eq
  exact ⟨rfl, List.tail_eq_of_cons_eq (List.append_cancel_left same)⟩

/-- No number is longer than the one that is found. -/
theorem length_le (number : NumberAt text lexeme) (front : other <+: text)
    (isNumber : IsNumber other) : other.length ≤ lexeme.text.length := by
  obtain ⟨more, text_eq⟩ := front
  cases number with
  | @integer digits behind isDigits ends =>
      have run := takeWhile_run isDigits.2 fun next next_mem => (ends next next_mem).1
      rcases isNumber with other_digits | ⟨whole, fraction, rfl, whole_digits, -⟩
      · have bound := length_le_length_takeWhile other_digits.2 more
        rwa [text_eq, run] at bound
      · rw [List.append_assoc, List.cons_append] at text_eq
        have whole_run : (whole ++ '.' :: (fraction ++ more)).takeWhile Text.isDigit = whole :=
          takeWhile_run whole_digits.2 (by rintro next ⟨⟩; rfl)
        obtain rfl : whole = digits := by rw [← whole_run, text_eq, run]
        have point := List.append_cancel_left text_eq
        exact absurd rfl (ends '.' (by rw [← point]; rfl)).2
  | @decimal whole fraction behind whole_digits fraction_digits ends =>
      have whole_run : (whole ++ '.' :: (fraction ++ behind)).takeWhile Text.isDigit = whole :=
        takeWhile_run whole_digits.2 (by rintro next ⟨⟩; rfl)
      have fraction_run := takeWhile_run fraction_digits ends
      rw [Lexeme.text, List.length_append]
      rcases isNumber with other_digits | ⟨whole', fraction', rfl, other_whole, other_fraction⟩
      · have bound := length_le_length_takeWhile other_digits.2 more
        rw [text_eq, whole_run] at bound
        exact Nat.le_add_right_of_le bound
      · rw [List.append_assoc, List.cons_append] at text_eq
        obtain ⟨rfl, behind_eq⟩ := whole_eq other_whole whole_digits text_eq
        have bound := length_le_length_takeWhile other_fraction more
        rw [behind_eq, fraction_run] at bound
        simpa using bound

end NumberAt

/-! ## What is scanned -/

theorem Operator.ofSymbol?_eq_none {character : Char}
    (missing : Operator.ofSymbol? character = none) (operator : Operator) :
    operator.symbol ≠ character := by
  have member : operator ∈ Operator.all := by
    rcases operator with (_ | _ | _ | _) | _ <;> decide
  simpa using List.find?_eq_none.mp missing operator member

theorem Punctuation.ofSymbol?_eq_none {character : Char}
    (missing : Punctuation.ofSymbol? character = none) (mark : Punctuation) :
    mark.symbol ≠ character := by
  have member : mark ∈ Punctuation.all := by
    cases mark <;> decide
  simpa using List.find?_eq_none.mp missing mark member

theorem Keyword.ofSpelling?_eq_none {text : String} :
    Keyword.ofSpelling? text = none ↔ ∀ word : Keyword, word.spelling ≠ text := by
  have complete (word : Keyword) : word ∈ Keyword.all := by
    rcases word with (_ | _) | _ <;> decide
  rw [Keyword.ofSpelling?, List.find?_eq_none]
  exact ⟨fun missing word => by simpa using missing word (complete word),
    fun missing word _ => by simpa using missing word⟩

namespace Lexeme

variable {text rest : List Char} {first : Char} {lexeme : Lexeme} {token : Token}

/-- How the first character decides what the lexeme is. -/
theorem longest?_cases (found : longest? (first :: rest) = some lexeme) :
    (Text.isLetter first = true ∧ lexeme = .word (first :: rest.takeWhile Text.isWordTail)) ∨
    (Text.isDigit first = true ∧ lexeme = numberAt (first :: rest)) ∨
    (Text.isLetter first = false ∧ Text.isDigit first = false ∧
      ((∃ mark : Punctuation, mark.symbol = first ∧ lexeme = .punctuation mark) ∨
        ∃ sign : Operator, sign.symbol = first ∧ lexeme = .operator sign)) := by
  rw [longest?] at found
  split at found
  · rename_i letter
    exact .inl ⟨letter, (Option.some.inj found).symm⟩
  · rename_i noLetter
    split at found
    · rename_i digit
      exact .inr (.inl ⟨digit, (Option.some.inj found).symm⟩)
    · rename_i noDigit
      refine .inr (.inr ⟨by simpa using noLetter, by simpa using noDigit, ?_⟩)
      split at found
      · rename_i mark mark_eq
        exact .inl ⟨mark, by simpa using List.find?_some mark_eq, (Option.some.inj found).symm⟩
      · obtain ⟨sign, sign_eq, lexeme_eq⟩ := Option.map_eq_some_iff.mp found
        exact .inr ⟨sign, by simpa using List.find?_some sign_eq, lexeme_eq.symm⟩

/-- What is found is the lexeme of the text. -/
theorem lexemeAt_of_longest? (found : longest? text = some lexeme) : LexemeAt text lexeme.text := by
  cases text with
  | nil => cases found
  | cons first rest =>
      rcases longest?_cases found with ⟨letter, rfl⟩ | ⟨digit, rfl⟩ | ⟨noLetter, noDigit, sign⟩
      · exact lexemeAt_word letter
      · have number := numberAt_numberAt digit rest
        refine .longest number.text_prefix (.inr number.isNumber) ?_
        rintro other front (word | isNumber)
        · have letter := word.isLetter front
          exact absurd letter (by simp [isLetter_of_isDigit digit])
        · exact number.length_le front isNumber
      · rcases sign with ⟨mark, rfl, rfl⟩ | ⟨operator, rfl, rfl⟩
        · exact lexemeAt_sign noLetter noDigit (.inr ⟨mark, rfl⟩)
        · exact lexemeAt_sign noLetter noDigit (.inl ⟨operator, rfl⟩)

theorem text_eq_append_of_longest? (found : longest? text = some lexeme) :
    ∃ behind, text = lexeme.text ++ behind := by
  cases lexemeAt_of_longest? found with
  | longest front _ _ =>
      obtain ⟨behind, text_eq⟩ := front
      exact ⟨behind, text_eq.symm⟩
  | sign _ lexeme_eq front _ =>
      obtain ⟨behind, text_eq⟩ := front
      exact ⟨behind, by rw [lexeme_eq, text_eq]⟩

theorem classifies_word (isWord : IsWord text) (stands : (word text).token? = some token) :
    Classifies text token := by
  rw [token?] at stands
  split at stands
  · rename_i keyword keyword_eq
    obtain rfl := Option.some.inj stands
    have spelled : keyword.spelling = String.ofList text := by
      simpa using List.find?_some keyword_eq
    have text_eq : keyword.spelling.toList = text := by rw [spelled, String.toList_ofList]
    rw [← text_eq]
    exact .keyword keyword
  · rename_i missing
    obtain rfl := Option.some.inj stands
    refine .identifier isWord fun word spelled => Keyword.ofSpelling?_eq_none.mp missing word ?_
    rw [← spelled, String.ofList_toList]

theorem classifies_number (number : NumberAt text lexeme) (stands : lexeme.token? = some token) :
    Classifies lexeme.text token := by
  cases number with
  | integer digits _ =>
      rw [token?] at stands
      split at stands
      · rename_i bound
        obtain rfl := Option.some.inj stands
        exact .integer digits (Int32.toInt_ofNat_of_lt (Nat.lt_succ_of_le bound))
      · cases stands
  | decimal whole fraction _ =>
      obtain rfl := Option.some.inj stands
      exact .decimal whole fraction

/-- The token of what is found is that of its spelling. -/
theorem classifies_of_longest? (found : longest? text = some lexeme)
    (stands : lexeme.token? = some token) : Classifies lexeme.text token := by
  cases text with
  | nil => cases found
  | cons first rest =>
      rcases longest?_cases found with ⟨letter, rfl⟩ | ⟨digit, rfl⟩ | ⟨-, -, sign⟩
      · exact classifies_word
          ⟨first, _, rfl, letter, fun character member => List.mem_takeWhile_imp member⟩ stands
      · exact classifies_number (numberAt_numberAt digit _) stands
      · rcases sign with ⟨mark, -, rfl⟩ | ⟨operator, -, rfl⟩
        · obtain rfl := Option.some.inj stands
          exact .punctuation mark
        · obtain rfl := Option.some.inj stands
          exact .operator operator

theorem oversized_number (number : NumberAt text lexeme) (stands : lexeme.token? = none) :
    Oversized text lexeme.text := by
  cases number with
  | @integer digits behind isDigits ends =>
      rw [token?] at stands
      split at stands
      · cases stands
      · rename_i beyond
        exact ⟨isDigits, Nat.lt_of_not_le beyond, behind, rfl, ends⟩
  | decimal => cases stands

/-- Only an integer beyond 32 bits stands for no token. -/
theorem oversized_of_longest? (found : longest? text = some lexeme)
    (stands : lexeme.token? = none) : Oversized text lexeme.text := by
  cases text with
  | nil => cases found
  | cons first rest =>
      rcases longest?_cases found with ⟨-, rfl⟩ | ⟨digit, rfl⟩ | ⟨-, -, sign⟩
      · rw [token?] at stands
        split at stands <;> cases stands
      · exact oversized_number (numberAt_numberAt digit _) stands
      · rcases sign with ⟨mark, -, rfl⟩ | ⟨operator, -, rfl⟩ <;> cases stands

/-- If nothing is found in a text that starts with no blank or comment, nothing starts with its first
character. -/
theorem startsNothing_of_longest? (missing : longest? (first :: rest) = none)
    (noBlank : Text.isBlank first = false) (noComment : first ≠ '#') : StartsNothing first := by
  rw [longest?] at missing
  split at missing
  · cases missing
  · rename_i noLetter
    split at missing
    · cases missing
    · rename_i noDigit
      split at missing
      · cases missing
      · rename_i noMark
        have noOperator := Option.map_eq_none_iff.mp missing
        refine ⟨by simpa using noLetter, by simpa using noDigit, ?_, noBlank, noComment⟩
        rintro (⟨operator, symbol_eq⟩ | ⟨mark, symbol_eq⟩)
        · exact Operator.ofSymbol?_eq_none noOperator operator symbol_eq
        · exact Punctuation.ofSymbol?_eq_none noMark mark symbol_eq

end Lexeme

namespace Oversized

variable {text digits digits' : List Char}

/-- The digits are all those at the start of the text. -/
theorem eq_takeWhile (oversized : Oversized text digits) :
    digits = text.takeWhile Text.isDigit := by
  obtain ⟨isDigits, -, behind, rfl, ends⟩ := oversized
  exact (takeWhile_run isDigits.2 fun next next_mem => (ends next next_mem).1).symm

theorem isDigit {first : Char} {rest : List Char} (oversized : Oversized (first :: rest) digits) :
    Text.isDigit first = true := by
  obtain ⟨isDigits, -, behind, text_eq, -⟩ := oversized
  exact isDigits.isDigit ⟨behind, text_eq.symm⟩

end Oversized

end Luso
