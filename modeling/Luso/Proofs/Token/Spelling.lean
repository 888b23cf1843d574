import Luso.Proofs.Text.Ascii
import Luso.Proofs.Token.Splitting

/-!
# Texts made of given tokens

A text that is put together from lexemes splits into their tokens again, if each lexeme is followed by
something that does not make it longer.  A space, a closing parenthesis or nothing can follow every
lexeme.
-/

namespace Luso

/-- A text splits into the given tokens, wherever it starts. -/
def Spells (text : List Char) (tokens : List Token) : Prop :=
  ∀ stream : TokenStream, stream.lookahead = none → stream.reader.remaining = text →
    stream.tokens = .ok tokens

/-- What follows does not make a text longer as a word or as a number: behind a word comes no letter
or digit, and behind a number no digit and no decimal point. -/
def Closes (behind text : List Char) : Prop :=
  ∀ next ∈ behind.head?, (IsWord text → Text.isWordTail next = false) ∧
    (IsNumber text → Text.isDigit next = false ∧ next ≠ '.')

/-- What follows makes no lexeme in front of it longer, whichever that is. -/
def Boundary (behind : List Char) : Prop :=
  ∀ next ∈ behind.head?, next = ' ' ∨ next = ')'

/-- In front of every boundary, a text splits into the given tokens. -/
def SpellsAhead (text : List Char) (tokens : List Token) : Prop :=
  ∀ behind rest, Boundary behind → Spells behind rest → Spells (text ++ behind) (tokens ++ rest)

/-- A character is neither a blank nor the start of a comment. -/
def Visible (character : Char) : Prop :=
  Text.isBlank character = false ∧ character ≠ '#'

theorem visible_of_isWordTail {character : Char} (inWord : Text.isWordTail character = true) :
    Visible character := by
  refine ⟨?_, ?_⟩
  · rw [← Bool.not_eq_true, Text.isBlank]
    simp only [Bool.or_eq_true, beq_iff_eq]
    rintro (((rfl | rfl) | rfl) | rfl) <;> exact absurd inWord (by decide)
  · rintro rfl
    exact absurd inWord (by decide)

theorem visible_of_isLetter {character : Char} (letter : Text.isLetter character = true) :
    Visible character :=
  visible_of_isWordTail (by rw [Text.isWordTail, letter, Bool.true_or])

theorem visible_of_isDigit {character : Char} (digit : Text.isDigit character = true) :
    Visible character :=
  visible_of_isWordTail (by rw [Text.isWordTail, digit, Bool.or_true])

theorem IsDigits.visible {digits rest : List Char} (isDigits : IsDigits digits) :
    ∀ next ∈ (digits ++ rest).head?, Visible next := by
  obtain ⟨nonempty, all⟩ := isDigits
  cases digits with
  | nil => exact absurd rfl nonempty
  | cons first others =>
      rintro next ⟨⟩
      exact visible_of_isDigit (all first List.mem_cons_self)

theorem Spells.tokenize_eq {text : List Char} {tokens : List Token} (spells : Spells text tokens) :
    tokenize (String.ofList text) = .ok tokens :=
  spells _ rfl (String.toList_ofList)

namespace Boundary

variable {behind : List Char}

theorem nil : Boundary [] := by
  rintro next ⟨⟩

theorem space : Boundary (' ' :: behind) := by
  rintro next ⟨⟩
  exact .inl rfl

theorem closeParen : Boundary (')' :: behind) := by
  rintro next ⟨⟩
  exact .inr rfl

theorem closes (boundary : Boundary behind) (text : List Char) : Closes behind text := by
  intro next here
  rcases boundary next here with rfl | rfl
  all_goals exact ⟨fun _ => rfl, fun _ => ⟨rfl, by decide⟩⟩

end Boundary

/-! ## Lexemes that end where they should -/

namespace Lexeme

variable {behind : List Char}

theorem longest?_word {first : Char} {tail : List Char} (letter : Text.isLetter first = true)
    (tailAll : ∀ character ∈ tail, Text.isWordTail character = true)
    (ends : ∀ next ∈ behind.head?, Text.isWordTail next = false) :
    longest? (first :: (tail ++ behind)) = some (.word (first :: tail)) := by
  rw [longest?, if_pos letter, takeWhile_run tailAll ends]

theorem longest?_of_isDigits {digits rest : List Char} (isDigits : IsDigits digits) :
    longest? (digits ++ rest) = some (numberAt (digits ++ rest)) := by
  obtain ⟨nonempty, all⟩ := isDigits
  cases digits with
  | nil => exact absurd rfl nonempty
  | cons first others =>
      have digit := all first List.mem_cons_self
      rw [List.cons_append, longest?, isLetter_of_isDigit digit, if_neg Bool.false_ne_true,
        if_pos digit]

theorem longest?_integer {digits : List Char} (isDigits : IsDigits digits)
    (ends : ∀ next ∈ behind.head?, Text.isDigit next = false ∧ next ≠ '.') :
    longest? (digits ++ behind) = some (.number digits none) := by
  have stops : ∀ next ∈ behind.head?, Text.isDigit next = false :=
    fun next next_mem => (ends next next_mem).1
  have run := takeWhile_run isDigits.2 stops
  have rest := dropWhile_run isDigits.2 stops
  rw [longest?_of_isDigits isDigits, numberAt, run, rest]
  cases behind with
  | nil => rfl
  | cons next others =>
      split
      · rename_i point_eq
        exact absurd (List.cons.inj point_eq).1 (ends next rfl).2
      · rfl

theorem longest?_decimal {whole fraction : List Char} (wholeDigits : IsDigits whole)
    (fractionDigits : ∀ character ∈ fraction, Text.isDigit character = true)
    (ends : ∀ next ∈ behind.head?, Text.isDigit next = false) :
    longest? (whole ++ '.' :: (fraction ++ behind)) = some (.number whole (some fraction)) := by
  have point : ∀ next ∈ ('.' :: (fraction ++ behind)).head?, Text.isDigit next = false := by
    rintro next ⟨⟩
    rfl
  rw [longest?_of_isDigits wholeDigits, numberAt, takeWhile_run wholeDigits.2 point,
    dropWhile_run wholeDigits.2 point]
  change some (number whole (some ((fraction ++ behind).takeWhile Text.isDigit))) = _
  rw [takeWhile_run fractionDigits ends]

theorem longest?_punctuation (mark : Punctuation) :
    longest? (mark.symbol :: behind) = some (.punctuation mark) := by
  cases mark <;> rfl

theorem longest?_operator (sign : Operator) :
    longest? (sign.symbol :: behind) = some (.operator sign) := by
  rcases sign with (_ | _ | _ | _) | _ <;> rfl

end Lexeme

/-! ## Putting texts together -/

theorem Reader.skipTrivia_of_visible {reader : Reader}
    (visible : ∀ next ∈ reader.remaining.head?, Visible next) : reader.skipTrivia = reader := by
  obtain ⟨remaining, position⟩ := reader
  rw [skipTrivia]
  cases remaining with
  | nil => rfl
  | cons character rest =>
      obtain ⟨notBlank, noComment⟩ := visible character rfl
      rw [skipTriviaIn, if_neg Bool.false_ne_true, notBlank, if_neg Bool.false_ne_true,
        if_neg noComment]

namespace Spells

variable {text behind : List Char} {tokens : List Token}

theorem nil : Spells [] [] := by
  intro stream unread text_eq
  have skipped : stream.reader.skipTrivia = stream.reader :=
    Reader.skipTrivia_of_visible (by rw [text_eq]; rintro next ⟨⟩)
  have next_eq : stream.next = (.ok none,
      { reader := stream.reader, lookahead := none, tokenStart := stream.reader.position }) := by
    simp only [TokenStream.next, unread, TokenStream.scan, skipped, text_eq]
  rw [TokenStream.tokens_eq_result_feed, TokenStream.feed_of_next_end next_eq]
  rfl

/-- What is passed over in front of a text changes nothing but the place. -/
theorem of_skip {longer : List Char} (spells : Spells text tokens)
    (skip : ∀ place, ∃ place',
      Reader.skipTriviaIn false longer place = Reader.skipTriviaIn false text place') :
    Spells longer tokens := by
  intro stream unread text_eq
  obtain ⟨place', skip_eq⟩ := skip stream.reader.position
  let behind : TokenStream := { stream with reader := ⟨text, place'⟩ }
  have skipped : stream.reader.skipTrivia = behind.reader.skipTrivia := by
    rw [Reader.skipTrivia, text_eq, skip_eq]
    rfl
  have next_eq : stream.next = behind.next := by
    have behind_unread : behind.lookahead = none := unread
    simp only [TokenStream.next, unread, behind_unread, TokenStream.scan, skipped]
  rw [TokenStream.tokens_eq_result_feed, TokenStream.feed_congr next_eq,
    ← TokenStream.tokens_eq_result_feed]
  exact spells behind unread rfl

theorem blank {character : Char} (isBlank : Text.isBlank character = true)
    (spells : Spells text tokens) : Spells (character :: text) tokens := by
  refine spells.of_skip fun place => ⟨place.advance character, ?_⟩
  rw [Reader.skipTriviaIn, if_neg Bool.false_ne_true, if_pos isBlank]

theorem lexeme (lexeme : Lexeme) {token : Token}
    (visible : ∀ next ∈ (lexeme.text ++ behind).head?, Visible next)
    (found : Lexeme.longest? (lexeme.text ++ behind) = some lexeme)
    (stands : lexeme.token? = some token) (spells : Spells behind tokens) :
    Spells (lexeme.text ++ behind) (token :: tokens) := by
  intro stream unread text_eq
  have skipped : stream.reader.skipTrivia = stream.reader :=
    Reader.skipTrivia_of_visible (text_eq ▸ visible)
  obtain ⟨behind_eq, -⟩ := Reader.consume_of_remaining_eq text_eq
  let after : TokenStream :=
    { reader := stream.reader.consume lexeme.text, lookahead := none,
      tokenStart := stream.reader.position }
  have next_eq : stream.next = (.ok (some token), after) := by
    rcases whole_eq : lexeme.text ++ behind with _ | ⟨first, rest⟩
    · rw [whole_eq] at found
      cases found
    · rw [whole_eq] at found text_eq
      simp only [TokenStream.next, unread, TokenStream.scan, skipped, text_eq, found, stands, after]
  rw [TokenStream.tokens_eq_result_feed, TokenStream.feed_of_next_token next_eq, Feed.result_cons,
    ← TokenStream.tokens_eq_result_feed, spells after rfl behind_eq]
  rfl

/-! ### Single lexemes -/

theorem punctuation (mark : Punctuation) (spells : Spells behind tokens) :
    Spells (mark.symbol :: behind) (.punctuation mark :: tokens) := by
  have visible : ∀ next ∈ ([mark.symbol] ++ behind).head?, Visible next := by
    rintro next ⟨⟩
    cases mark <;> exact ⟨rfl, by decide⟩
  exact lexeme (.punctuation mark) visible (Lexeme.longest?_punctuation mark) rfl spells

theorem operator (sign : Operator) (spells : Spells behind tokens) :
    Spells (sign.symbol :: behind) (.operator sign :: tokens) := by
  have visible : ∀ next ∈ ([sign.symbol] ++ behind).head?, Visible next := by
    rintro next ⟨⟩
    rcases sign with (_ | _ | _ | _) | _ <;> exact ⟨rfl, by decide⟩
  exact lexeme (.operator sign) visible (Lexeme.longest?_operator sign) rfl spells

end Spells

/-! ### Any lexeme -/

theorem Keyword.isWord_spelling (word : Keyword) : IsWord word.spelling.toList := by
  rcases word with (_ | _) | _
  all_goals exact ⟨_, _, rfl, rfl, List.all_eq_true.mp rfl⟩

theorem Keyword.ofSpelling?_spelling (word : Keyword) :
    ofSpelling? word.spelling = some word := by
  rcases word with (_ | _) | _ <;> rfl

namespace Spells

variable {text behind : List Char} {token : Token} {tokens : List Token}

theorem word (isWord : IsWord text) (stands : (Lexeme.word text).token? = some token)
    (ends : ∀ next ∈ behind.head?, Text.isWordTail next = false) (spells : Spells behind tokens) :
    Spells (text ++ behind) (token :: tokens) := by
  obtain ⟨first, tail, rfl, letter, tailAll⟩ := isWord
  have visible : ∀ next ∈ (first :: tail ++ behind).head?, Visible next := by
    rintro next ⟨⟩
    exact visible_of_isLetter letter
  exact lexeme (.word (first :: tail)) visible (Lexeme.longest?_word letter tailAll ends) stands
    spells

theorem integer {digits : List Char} {value : Int32} (isDigits : IsDigits digits)
    (value_eq : value.toInt = Nat.ofDigitChars 10 digits 0)
    (ends : ∀ next ∈ behind.head?, Text.isDigit next = false ∧ next ≠ '.')
    (spells : Spells behind tokens) : Spells (digits ++ behind) (.integer value :: tokens) := by
  have bound : Nat.ofDigitChars 10 digits 0 < 2 ^ 31 := by
    have := value.toInt_lt
    omega
  have small : Nat.ofDigitChars 10 digits 0 ≤ Lexeme.greatestInteger := Nat.le_of_lt_succ bound
  have stands : (Lexeme.number digits none).token? = some (.integer value) := by
    rw [Lexeme.token?, if_pos small]
    congr 2
    rw [← Int32.toInt_inj, Int32.toInt_ofNat_of_lt bound, value_eq]
  exact lexeme (.number digits none) isDigits.visible (Lexeme.longest?_integer isDigits ends)
    stands spells

theorem decimal {whole fraction : List Char} (wholeDigits : IsDigits whole)
    (fractionDigits : ∀ character ∈ fraction, Text.isDigit character = true)
    (ends : ∀ next ∈ behind.head?, Text.isDigit next = false) (spells : Spells behind tokens) :
    Spells (whole ++ '.' :: fraction ++ behind)
      (.decimal (Binary64.ofDecimal false (Nat.ofDigitChars 10 (whole ++ fraction) 0)
        (-fraction.length)) :: tokens) := by
  have visible : ∀ next ∈ ((whole ++ '.' :: fraction) ++ behind).head?, Visible next := by
    rw [List.append_assoc]
    exact wholeDigits.visible
  have found := Lexeme.longest?_decimal wholeDigits fractionDigits ends
  rw [← List.cons_append, ← List.append_assoc] at found
  exact lexeme (.number whole (some fraction)) visible found rfl spells

/-- A lexeme splits off as its token in front of whatever does not make it longer. -/
theorem classified (classified : Classifies text token) (closes : Closes behind text)
    (spells : Spells behind tokens) : Spells (text ++ behind) (token :: tokens) := by
  cases classified with
  | keyword word =>
      have stands : (Lexeme.word word.spelling.toList).token? = some (.keyword word) := by
        rw [Lexeme.token?, String.ofList_toList, word.ofSpelling?_spelling]
      exact .word word.isWord_spelling stands
        (fun next here => (closes next here).1 word.isWord_spelling) spells
  | identifier isWord notReserved =>
      have missing : Keyword.ofSpelling? (String.ofList text) = none := by
        refine Keyword.ofSpelling?_eq_none.mpr fun word spelled => notReserved word ?_
        rw [spelled, String.toList_ofList]
      have stands : (Lexeme.word text).token? = some (.identifier (String.ofList text)) := by
        rw [Lexeme.token?, missing]
      exact .word isWord stands (fun next here => (closes next here).1 isWord) spells
  | integer digits value_eq =>
      exact .integer digits value_eq (fun next here => (closes next here).2 (.inl digits)) spells
  | decimal whole fraction =>
      have number : IsNumber (_ ++ '.' :: _) := .inr ⟨_, _, rfl, whole, fraction⟩
      exact .decimal whole fraction (fun next here => ((closes next here).2 number).1) spells
  | operator sign => exact spells.operator sign
  | punctuation mark => exact spells.punctuation mark

end Spells

namespace SpellsAhead

theorem of_classifies {text : List Char} {token : Token} (classified : Classifies text token) :
    SpellsAhead text [token] :=
  fun _ _ boundary spells => .classified classified (boundary.closes text) spells

theorem identifier {name : String} (isWord : IsWord name.toList)
    (notReserved : ∀ word : Keyword, word.spelling ≠ name) :
    SpellsAhead name.toList [.identifier name] := by
  have classified := Classifies.identifier isWord fun word spelled =>
    notReserved word (String.toList_inj.mp spelled)
  rw [String.ofList_toList] at classified
  exact .of_classifies classified

theorem integer {digits : List Char} {value : Int32} (isDigits : IsDigits digits)
    (value_eq : value.toInt = Nat.ofDigitChars 10 digits 0) :
    SpellsAhead digits [.integer value] :=
  .of_classifies (.integer isDigits value_eq)

theorem decimal {whole fraction : List Char} (wholeDigits : IsDigits whole)
    (fractionDigits : ∀ character ∈ fraction, Text.isDigit character = true) :
    SpellsAhead (whole ++ '.' :: fraction)
      [.decimal (Binary64.ofDecimal false (Nat.ofDigitChars 10 (whole ++ fraction) 0)
        (-fraction.length))] :=
  .of_classifies (.decimal wholeDigits fractionDigits)

end SpellsAhead

/-! ## Texts of a single token -/

theorem Trivia.eq_nil_of_visible {trivia behind : List Char} (skipped : Trivia trivia behind)
    (visible : ∀ character ∈ trivia, Visible character) : trivia = [] := by
  cases skipped with
  | nil => rfl
  | blank isBlank _ =>
      have notBlank := (visible _ List.mem_cons_self).1
      rw [isBlank] at notBlank
      cases notBlank
  | comment => exact absurd rfl (visible '#' List.mem_cons_self).2

/-- A text without blanks and comments that splits into one token is the lexeme of this token. -/
theorem classifies_of_tokenize {text : List Char} {token : Token}
    (visible : ∀ character ∈ text, Visible character)
    (split : tokenize (String.ofList text) = .ok [token]) : Classifies text token := by
  obtain ⟨lexemes, stop, rest, splits, classify, stands⟩ := feedOf_reports (String.ofList text)
  rw [tokenize_eq_result_feedOf, Feed.result_eq_ok_iff] at split
  obtain ⟨tokens_eq, place, finished⟩ := split
  rw [finished] at stands
  obtain ⟨rfl, -⟩ := stands
  rw [String.toList_ofList] at splits
  obtain ⟨⟨found, place⟩, placed_eq, rfl⟩ := List.map_eq_singleton_iff.mp tokens_eq
  rw [placed_eq] at classify
  cases classify with
  | cons classified others =>
      cases others with
      | nil =>
          cases splits with
          | lexeme skipped here others =>
              cases others with
              | stop skippedBehind =>
                  simp only [List.forall_mem_append] at visible
                  obtain ⟨front, -, back, -⟩ := visible
                  rw [skipped.eq_nil_of_visible front, skippedBehind.eq_nil_of_visible back]
                  simpa using classified.1

/-- So a text that is read as a decimal number is read as it in front of every boundary. -/
theorem SpellsAhead.decimal_of_tokenize {text : List Char} {value : Binary64}
    (visible : ∀ character ∈ text, Visible character)
    (split : tokenize (String.ofList text) = .ok [.decimal value]) :
    SpellsAhead text [.decimal value] :=
  .of_classifies (classifies_of_tokenize visible split)

/-! ## Where a text goes on -/

theorem visible_of_isSign {character : Char} (sign : IsSign character) : Visible character := by
  rcases sign with ⟨operator, rfl⟩ | ⟨mark, rfl⟩
  · rcases operator with (_ | _ | _ | _) | _ <;> exact ⟨rfl, by decide⟩
  · cases mark <;> exact ⟨rfl, by decide⟩

theorem LexemeAt.visible {text lexeme : List Char} (here : LexemeAt text lexeme) :
    ∀ next ∈ text.head?, Visible next := by
  cases text with
  | nil => rintro next ⟨⟩
  | cons first rest =>
      rintro next ⟨⟩
      cases here with
      | longest front shape _ =>
          rcases shape with word | number
          · exact visible_of_isLetter (word.isLetter front)
          · exact visible_of_isDigit (number.isDigit front)
      | sign _ _ front sign =>
          obtain ⟨rfl, -⟩ := List.cons_prefix_cons.mp front
          exact visible_of_isSign sign

theorem Refused.visible {place : Position} {rest : List Char} {error : LexicalError}
    (refused : Refused place rest error) : ∀ next ∈ rest.head?, Visible next := by
  by_cases oversized : ∃ digits, Oversized rest digits
  · obtain ⟨digits, isDigits, -, behind, rfl, -⟩ := oversized
    exact isDigits.visible
  · obtain ⟨character, behind, rfl, ⟨-, -, -, noBlank, noComment⟩, -⟩ :=
      refused.2 (not_exists.mp oversized)
    rintro next ⟨⟩
    exact ⟨noBlank, noComment⟩

end Luso
