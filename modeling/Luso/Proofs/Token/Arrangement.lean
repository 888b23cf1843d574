import Luso.Proofs.Token.Spelling

/-!
# Arrangements of lexemes

Lexemes may be written with any blanks and comments around them, and with nothing between two of them
unless they would run together.  Then the text splits into exactly their tokens, since each lexeme is
the longest one at its place.
-/

namespace Luso

/-! ## Pieces of a text -/

/-- A text that stands for a token on its own: a word, a number or a sign.  An integer is not beyond 32
bits. -/
inductive IsLexeme : List Char → Prop where
  | word {text} : IsWord text → IsLexeme text
  | integer {digits} :
      IsDigits digits → Nat.ofDigitChars 10 digits 0 ≤ Lexeme.greatestInteger → IsLexeme digits
  | decimal {whole fraction} :
      IsDigits whole → (∀ character ∈ fraction, Text.isDigit character = true) →
      IsLexeme (whole ++ '.' :: fraction)
  | operator (sign : Operator) : IsLexeme [sign.symbol]
  | punctuation (mark : Punctuation) : IsLexeme [mark.symbol]

/-- A lexeme and the blanks and comments in front of it. -/
structure Piece where
  /-- Blanks and comments. -/
  trivia : List Char
  /-- What stands for a token. -/
  lexeme : List Char

/-- The text of some pieces and of the blanks and comments behind them. -/
def layOut (last : List Char) : List Piece → List Char
  | [] => last
  | piece :: rest => piece.trivia ++ (piece.lexeme ++ layOut last rest)

/-- Two lexemes that would be read differently if nothing stood between them. -/
def RunTogether (left right : List Char) : Prop :=
  IsWord left ∧ (IsWord right ∨ IsNumber right) ∨ IsNumber left ∧ IsNumber right

/-- Pieces that may follow each other: around the lexemes are only blanks and comments, and there are
some between two lexemes that would run together. -/
inductive Arranged (last : List Char) : List Piece → Prop where
  | nil : Trivia last [] → Arranged last []
  | cons {piece rest} :
      Trivia piece.trivia (piece.lexeme ++ layOut last rest) → IsLexeme piece.lexeme →
      (∀ next ∈ rest.head?, RunTogether piece.lexeme next.lexeme → next.trivia ≠ []) →
      Arranged last rest → Arranged last (piece :: rest)

/-! ## Tokens of lexemes -/

theorem IsLexeme.exists_classifies {text : List Char} (isLexeme : IsLexeme text) :
    ∃ token, Classifies text token := by
  cases isLexeme with
  | word isWord =>
      by_cases reserved : ∃ word : Keyword, word.spelling.toList = text
      · obtain ⟨word, rfl⟩ := reserved
        exact ⟨_, .keyword word⟩
      · exact ⟨_, .identifier isWord (not_exists.mp reserved)⟩
  | integer digits small =>
      exact ⟨_, .integer digits (Int32.toInt_ofNat_of_lt (Nat.lt_succ_of_le small))⟩
  | decimal whole fraction => exact ⟨_, .decimal whole fraction⟩
  | operator sign => exact ⟨_, .operator sign⟩
  | punctuation mark => exact ⟨_, .punctuation mark⟩

/-! ## Seams -/

/-- A character that belongs to no word and no number may stand behind every lexeme. -/
theorem closes_of_inert {first : Char} {rest : List Char}
    (notWordTail : Text.isWordTail first = false) (notPoint : first ≠ '.') (text : List Char) :
    Closes (first :: rest) text := by
  rintro next ⟨⟩
  have notDigit := (Bool.or_eq_false_iff.mp notWordTail).2
  exact ⟨fun _ => notWordTail, fun _ => ⟨notDigit, notPoint⟩⟩

theorem not_isWordTail_of_isBlank {character : Char} (isBlank : Text.isBlank character = true) :
    Text.isWordTail character = false := by
  cases inWord : Text.isWordTail character with
  | false => rfl
  | true =>
      rw [(visible_of_isWordTail inWord).1] at isBlank
      cases isBlank

/-- Blanks and comments may stand behind every lexeme. -/
theorem Trivia.closes {trivia behind : List Char} (skipped : Trivia trivia behind)
    (nonempty : trivia ≠ []) (rest text : List Char) : Closes (trivia ++ rest) text := by
  cases skipped with
  | nil => exact absurd rfl nonempty
  | blank isBlank _ =>
      refine closes_of_inert (not_isWordTail_of_isBlank isBlank) ?_ text
      rintro rfl
      cases isBlank
  | comment => exact closes_of_inert rfl (by decide) text

theorem closes_of_sign {character : Char} (sign : IsSign character) (rest text : List Char) :
    Closes (character :: rest) text := by
  rcases sign with ⟨sign, rfl⟩ | ⟨mark, rfl⟩
  · rcases sign with (_ | _ | _ | _) | _
    all_goals exact closes_of_inert rfl (by decide) text
  · cases mark
    all_goals exact closes_of_inert rfl (by decide) text

/-- A word may stand behind everything but a word. -/
theorem IsWord.closes {word text : List Char} (isWord : IsWord word) (behindWord : ¬IsWord text)
    (rest : List Char) : Closes (word ++ rest) text := by
  obtain ⟨first, tail, rfl, letter, -⟩ := isWord
  rintro next ⟨⟩
  refine ⟨fun word => absurd word behindWord, fun _ => ⟨isDigit_of_isLetter letter, ?_⟩⟩
  rintro rfl
  cases letter

/-- So a lexeme may directly follow another one unless the two would run together. -/
theorem IsLexeme.closes {lexeme text : List Char} (isLexeme : IsLexeme lexeme)
    (apart : ¬RunTogether text lexeme) (rest : List Char) : Closes (lexeme ++ rest) text := by
  have number (isNumber : IsNumber lexeme) : Closes (lexeme ++ rest) text := by
    intro next _
    exact ⟨fun word => absurd (.inl ⟨word, .inr isNumber⟩) apart,
      fun before => absurd (.inr ⟨before, isNumber⟩) apart⟩
  cases isLexeme with
  | word isWord =>
      exact isWord.closes (fun before => apart (.inl ⟨before, .inl isWord⟩)) rest
  | integer digits _ => exact number (.inl digits)
  | decimal whole fraction => exact number (.inr ⟨_, _, rfl, whole, fraction⟩)
  | operator sign => exact closes_of_sign (.inl ⟨sign, rfl⟩) rest text
  | punctuation mark => exact closes_of_sign (.inr ⟨mark, rfl⟩) rest text

/-- What is arranged behind a lexeme does not make it longer. -/
theorem Arranged.closes {last text : List Char} {pieces : List Piece}
    (arranged : Arranged last pieces)
    (apart : ∀ next ∈ pieces.head?, RunTogether text next.lexeme → next.trivia ≠ []) :
    Closes (layOut last pieces) text := by
  cases arranged with
  | nil trivia =>
      rw [layOut]
      cases last with
      | nil => rintro next ⟨⟩
      | cons first rest =>
          have closes := trivia.closes (List.cons_ne_nil _ _) [] text
          rwa [List.append_nil] at closes
  | @cons piece rest trivia isLexeme _ _ =>
      rw [layOut]
      by_cases nothing : piece.trivia = []
      · rw [nothing, List.nil_append]
        exact isLexeme.closes (fun together => apart piece rfl together nothing) _
      · exact trivia.closes nothing _ _

/-! ## Comments -/

theorem Reader.skipTriviaIn_comment {body : List Char} (noFeed : '\n' ∉ body) (rest : List Char)
    (place : Position) :
    skipTriviaIn true (body ++ rest) place = skipTriviaIn true rest (place.advanceOver body) := by
  induction body generalizing place with
  | nil => rfl
  | cons character others induction =>
      obtain ⟨notFeed, free⟩ := List.ne_and_not_mem_of_not_mem_cons noFeed
      rw [List.cons_append, skipTriviaIn, if_pos rfl, bne_iff_ne.mpr notFeed.symm, induction free,
        Position.advanceOver_cons]

/-- At the end of its line a comment is over. -/
theorem Reader.skipTriviaIn_of_lineFeed {rest : List Char}
    (ends : ∀ next ∈ rest.head?, next = '\n') (place : Position) :
    skipTriviaIn true rest place = skipTriviaIn false rest place := by
  cases rest with
  | nil => rfl
  | cons next others =>
      obtain rfl := ends next rfl
      rfl

namespace Spells

variable {text rest : List Char} {tokens : List Token}

theorem comment {body : List Char} (noFeed : '\n' ∉ body)
    (ends : ∀ next ∈ rest.head?, next = '\n') (spells : Spells rest tokens) :
    Spells ('#' :: (body ++ rest)) tokens := by
  refine spells.of_skip fun place => ⟨(place.advance '#').advanceOver body, ?_⟩
  rw [← Reader.skipTriviaIn_of_lineFeed ends, ← Reader.skipTriviaIn_comment noFeed]
  rfl

/-- Blanks and comments in front of a text change nothing but the places. -/
theorem trivia {trivia behind : List Char} (skipped : Trivia trivia behind)
    (spells : Spells behind tokens) : Spells (trivia ++ behind) tokens := by
  induction skipped with
  | nil => exact spells
  | blank isBlank _ induction => exact (induction spells).blank isBlank
  | comment noFeed ends _ induction =>
      rw [List.cons_append, List.append_assoc]
      exact (induction spells).comment noFeed ends

end Spells

/-! ## Whole texts -/

theorem Arranged.spells {last : List Char} {pieces : List Piece} (arranged : Arranged last pieces) :
    ∃ tokens, List.Forall₂ Classifies (pieces.map Piece.lexeme) tokens ∧
      Spells (layOut last pieces) tokens := by
  -- Where a lexeme ends depends on what stands behind it, so the last one comes first.
  induction arranged with
  | nil trivia =>
      have spells := Spells.nil.trivia trivia
      rw [List.append_nil] at spells
      exact ⟨[], .nil, spells⟩
  | @cons piece rest trivia isLexeme apart arranged induction =>
      obtain ⟨tokens, classify, spells⟩ := induction
      obtain ⟨token, classified⟩ := isLexeme.exists_classifies
      have lexeme := spells.classified classified (arranged.closes apart)
      exact ⟨token :: tokens, .cons classified classify, lexeme.trivia trivia⟩

/-- Lexemes that are written one behind the other, with blanks and comments wherever one likes and at
least between those that would run together, split into exactly their tokens. -/
theorem tokenize_layOut {last : List Char} {pieces : List Piece}
    (arranged : Arranged last pieces) :
    ∃ tokens, List.Forall₂ Classifies (pieces.map Piece.lexeme) tokens ∧
      tokenize (String.ofList (layOut last pieces)) = .ok tokens := by
  obtain ⟨tokens, classify, spells⟩ := arranged.spells
  exact ⟨tokens, classify, spells.tokenize_eq⟩

/-- A declaration in which blanks stand nowhere: a comment separates the two words, and a word follows
a number that ends in its decimal point. -/
def touchingPieces : List Piece :=
  [⟨[], "real".toList⟩, ⟨"#tipo\n".toList, "x".toList⟩, ⟨[], ['=']⟩, ⟨[], "1.".toList⟩,
    ⟨[], "y".toList⟩]

theorem tokenize_layOut_touchingPieces :
    Arranged "# fim".toList touchingPieces ∧
    ∃ tokens, List.Forall₂ Classifies (touchingPieces.map Piece.lexeme) tokens ∧
      tokenize "real#tipo\nx=1.y# fim" = .ok tokens := by
  have letter {character : Char} (isLetter : Text.isLetter character = true) :
      IsLexeme [character] :=
    .word ⟨character, [], rfl, isLetter, by simp⟩
  have one : IsLexeme (['1'] ++ '.' :: []) :=
    .decimal ⟨List.cons_ne_nil _ _, List.forall_mem_singleton.mpr rfl⟩ (by simp)
  have closed (behind : List Char) : Trivia "#tipo\n".toList behind :=
    @Trivia.comment "tipo".toList ['\n'] behind (by decide) (by rintro next ⟨⟩; rfl) (.blank rfl .nil)
  have ended : Trivia "# fim".toList [] :=
    @Trivia.comment " fim".toList [] [] (by decide) (by rintro next ⟨⟩) .nil
  have behindX : ¬RunTogether ['x'] ['='] := by
    rintro (⟨-, word | number⟩ | ⟨-, number⟩)
    · cases word.isLetter (List.prefix_refl ['='])
    all_goals cases number.isDigit (List.prefix_refl ['='])
  have behindSign : ¬RunTogether ['='] ['1', '.'] := by
    rintro (⟨word, -⟩ | ⟨number, -⟩)
    · cases word.isLetter (List.prefix_refl ['='])
    · cases number.isDigit (List.prefix_refl ['='])
  have behindOne : ¬RunTogether ['1', '.'] ['y'] := by
    rintro (⟨word, -⟩ | ⟨-, number⟩)
    · cases word.isLetter (List.prefix_refl ['1', '.'])
    · cases number.isDigit (List.prefix_refl ['y'])
  have arranged : Arranged "# fim".toList touchingPieces := by
    refine .cons .nil (.word (Keyword.isWord_spelling (.declare .real))) ?_ <|
      .cons (closed _) (letter rfl) ?_ <| .cons .nil (.operator .assign) ?_ <|
      .cons .nil one ?_ <| .cons .nil (letter rfl) ?_ (.nil ended)
    · rintro next ⟨⟩ _
      exact List.cons_ne_nil _ _
    · rintro next ⟨⟩ together
      exact absurd together behindX
    · rintro next ⟨⟩ together
      exact absurd together behindSign
    · rintro next ⟨⟩ together
      exact absurd together behindOne
    · rintro next ⟨⟩
  exact ⟨arranged, tokenize_layOut arranged⟩

end Luso
