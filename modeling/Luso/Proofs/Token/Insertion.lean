import Luso.Proofs.Token.Arrangement
import Luso.Proofs.Token.Seam

/-!
# A mark in front of a token

A punctuation mark runs together with nothing.  If one is put into a text directly in front of a token,
then all tokens before this one stay where they are, the mark is the token behind them, and behind the
mark the text is split as if it started there.
-/

namespace Luso

/-! ## Changing what follows -/

/-- What is behind a lexeme may be exchanged for a text that starts in the same way, or with a character
that belongs to no word and no number. -/
def Exchanges (behind other : List Char) : Prop :=
  ∀ next ∈ other.head?, behind.head? = some next ∨ Text.isWordTail next = false ∧ next ≠ '.'

theorem exchanges_append_mark (mark : Punctuation) (front behind : List Char) :
    Exchanges (front ++ behind) (front ++ mark.symbol :: behind) := by
  cases front with
  | nil =>
      rintro next ⟨⟩
      exact .inr (by cases mark <;> exact ⟨rfl, by decide⟩)
  | cons first rest =>
      rintro next ⟨⟩
      exact .inl rfl

namespace Lexeme

variable {lexeme : Lexeme} {behind other : List Char}

/-- The lexeme in front of what is exchanged stays the longest one. -/
theorem longest?_exchange (found : longest? (lexeme.text ++ behind) = some lexeme)
    (exchanges : Exchanges behind other) : longest? (lexeme.text ++ other) = some lexeme := by
  generalize text_eq : lexeme.text ++ behind = text at found
  cases text with
  | nil => cases found
  | cons first rest =>
      rcases longest?_cases found with ⟨letter, rfl⟩ | ⟨digit, rfl⟩ | ⟨-, -, sign⟩
      · have tail_eq : rest.takeWhile Text.isWordTail ++ behind = rest := (List.cons.inj text_eq).2
        have behind_eq : behind = rest.dropWhile Text.isWordTail :=
          List.append_cancel_left (tail_eq.trans List.takeWhile_append_dropWhile.symm)
        refine longest?_word letter (fun _ => List.mem_takeWhile_imp) fun next here => ?_
        rcases exchanges next here with same | ⟨notWordTail, -⟩
        · exact dropWhile_head? Text.isWordTail rest next (behind_eq ▸ same)
        · exact notWordTail
      · have number := numberAt_numberAt digit rest
        generalize numberAt (first :: rest) = lexeme at text_eq number
        generalize first :: rest = text at text_eq number
        cases number with
        | integer isDigits ends =>
            obtain rfl := List.append_cancel_left text_eq
            refine longest?_integer isDigits fun next here => ?_
            rcases exchanges next here with same | ⟨notWordTail, notPoint⟩
            · exact ends next same
            · exact ⟨(Bool.or_eq_false_iff.mp notWordTail).2, notPoint⟩
        | @decimal whole fraction _ wholeDigits fractionDigits ends =>
            have text_eq : (whole ++ '.' :: fraction) ++ behind = whole ++ '.' :: (fraction ++ _) :=
              text_eq
            rw [List.append_assoc, List.cons_append] at text_eq
            obtain rfl := List.append_cancel_left (List.cons.inj (List.append_cancel_left text_eq)).2
            have stops : ∀ next ∈ other.head?, Text.isDigit next = false := by
              intro next here
              rcases exchanges next here with same | ⟨notWordTail, -⟩
              · exact ends next same
              · exact (Bool.or_eq_false_iff.mp notWordTail).2
            rw [text, List.append_assoc, List.cons_append]
            exact longest?_decimal wholeDigits fractionDigits stops
      · rcases sign with ⟨mark, -, rfl⟩ | ⟨operator, -, rfl⟩
        · exact longest?_punctuation mark
        · exact longest?_operator operator

end Lexeme

/-- Blanks and comments that are over stay so, whatever is put behind them. -/
theorem Trivia.exchange {trivia behind : List Char} (skipped : Trivia trivia behind)
    (ended : ∃ next ∈ behind.head?, next ≠ '\n') (other : List Char) : Trivia trivia other := by
  induction skipped with
  | nil => exact .nil
  | blank isBlank _ induction => exact .blank isBlank (induction ended)
  | @comment body trivia behind noFeed ends _ induction =>
      refine .comment noFeed (fun next here => ?_) (induction ended)
      cases trivia with
      | nil =>
          obtain ⟨first, first_eq, notFeed⟩ := ended
          exact absurd (ends first first_eq) notFeed
      | cons first rest => exact ends next here

/-- Blanks and comments in front of something visible are passed over. -/
theorem Trivia.skipTriviaIn_eq {trivia behind : List Char} (skipped : Trivia trivia behind)
    (visible : ∀ next ∈ behind.head?, Visible next) (place : Position) :
    Reader.skipTriviaIn false (trivia ++ behind) place =
      { remaining := behind, position := place.advanceOver trivia } := by
  induction skipped generalizing place with
  | @nil behind => exact @Reader.skipTrivia_of_visible { remaining := behind, position := place } visible
  | blank isBlank _ induction =>
      rw [List.cons_append, Reader.skipTriviaIn, if_neg Bool.false_ne_true, if_pos isBlank,
        induction visible]
      rfl
  | @comment body trivia behind noFeed ends _ induction =>
      rw [List.cons_append, List.append_assoc, Reader.skipTriviaIn, if_neg Bool.false_ne_true,
        if_neg (by decide), if_pos rfl, Reader.skipTriviaIn_comment noFeed,
        Reader.skipTriviaIn_of_lineFeed ends, induction visible, Position.advanceOver_cons,
        Position.advanceOver_append]

/-! ## The first token of a text -/

/-- What a text that starts at a place feeds. -/
def Feed.ofText (place : Position) (text : List Char) : Feed :=
  (TokenStream.startingAt place text).feed

/-- A text goes on with the lexeme of a token, behind blanks and comments. -/
structure Upfront (text : List Char) (token : Token) where
  /-- Blanks and comments. -/
  trivia : List Char
  /-- The lexeme. -/
  lexeme : Lexeme
  /-- What follows. -/
  behind : List Char
  /-- The parts make up the text. -/
  text_eq : text = trivia ++ (lexeme.text ++ behind)
  /-- Only blanks and comments are in front of the lexeme. -/
  skipped : Trivia trivia (lexeme.text ++ behind)
  /-- The lexeme is found in front of what follows. -/
  found : Lexeme.longest? (lexeme.text ++ behind) = some lexeme
  /-- It stands for the token. -/
  stands : lexeme.token? = some token

namespace Upfront

variable {text : List Char} {token : Token}

theorem visible (upfront : Upfront text token) :
    ∀ next ∈ (upfront.lexeme.text ++ upfront.behind).head?, Visible next :=
  (Lexeme.lexemeAt_of_longest? upfront.found).visible

theorem text_ne_nil (upfront : Upfront text token) : upfront.lexeme.text ≠ [] :=
  (Lexeme.lexemeAt_of_longest? upfront.found).ne_nil

theorem ended (upfront : Upfront text token) :
    ∃ next ∈ (upfront.lexeme.text ++ upfront.behind).head?, next ≠ '\n' := by
  have found := upfront.found
  have visible := upfront.visible
  cases text_eq : upfront.lexeme.text ++ upfront.behind with
  | nil =>
      rw [text_eq] at found
      cases found
  | cons first rest =>
      rw [text_eq] at visible
      refine ⟨first, rfl, ?_⟩
      rintro rfl
      cases (visible '\n' rfl).1

/-- Nothing is in front of the lexeme. -/
def ofLexeme {lexeme : Lexeme} {behind : List Char}
    (found : Lexeme.longest? (lexeme.text ++ behind) = some lexeme)
    (stands : lexeme.token? = some token) : Upfront (lexeme.text ++ behind) token where
  trivia := []
  lexeme
  behind
  text_eq := rfl
  skipped := .nil
  found
  stands

/-- What follows may be exchanged. -/
def exchange (upfront : Upfront text token) (other : List Char)
    (exchanges : Exchanges upfront.behind other) :
    Upfront (upfront.trivia ++ (upfront.lexeme.text ++ other)) token where
  trivia := upfront.trivia
  lexeme := upfront.lexeme
  behind := other
  text_eq := rfl
  skipped := upfront.skipped.exchange upfront.ended _
  found := Lexeme.longest?_exchange upfront.found exchanges
  stands := upfront.stands

/-- A mark may be put in front of the lexeme. -/
def mark (upfront : Upfront text token) (mark : Punctuation) :
    Upfront (upfront.trivia ++ mark.symbol :: (upfront.lexeme.text ++ upfront.behind))
      (.punctuation mark) where
  trivia := upfront.trivia
  lexeme := .punctuation mark
  behind := upfront.lexeme.text ++ upfront.behind
  text_eq := rfl
  skipped := upfront.skipped.exchange upfront.ended _
  found := Lexeme.longest?_punctuation mark
  stands := rfl

/-- The token comes first, and what follows is split as if it started there. -/
theorem feed_eq (upfront : Upfront text token) (place : Position) :
    Feed.ofText place text =
      (Feed.ofText (place.advanceOver (upfront.trivia ++ upfront.lexeme.text)) upfront.behind).cons
        token (place.advanceOver upfront.trivia) := by
  have skipped : (TokenStream.startingAt place text).reader.skipTrivia =
      { remaining := upfront.lexeme.text ++ upfront.behind
        position := place.advanceOver upfront.trivia } := by
    conv => lhs; rw [upfront.text_eq]
    exact upfront.skipped.skipTriviaIn_eq upfront.visible place
  let after : TokenStream :=
    { TokenStream.startingAt (place.advanceOver (upfront.trivia ++ upfront.lexeme.text))
        upfront.behind with
      tokenStart := place.advanceOver upfront.trivia }
  have next_eq : (TokenStream.startingAt place text).next = (.ok (some token), after) := by
    have found := upfront.found
    have consumed := Reader.consume_append upfront.lexeme.text upfront.behind
      (place.advanceOver upfront.trivia)
    rw [← Position.advanceOver_append] at consumed
    have unread : (TokenStream.startingAt place text).lookahead = none := rfl
    rcases ahead_eq : upfront.lexeme.text ++ upfront.behind with _ | ⟨first, others⟩
    · rw [ahead_eq] at found
      cases found
    · rw [ahead_eq] at found skipped consumed
      simp only [TokenStream.next, unread, TokenStream.scan, skipped, found, upfront.stands, consumed]
      rfl
  rw [Feed.ofText, TokenStream.feed_of_next_token next_eq]
  exact congrArg _ (TokenStream.feed_congr rfl)

end Upfront

theorem Feed.exists_upfront {place here : Position} {text : List Char} {token : Token} {rest : Feed}
    (feed_eq : Feed.ofText place text = rest.cons token here) :
    ∃ upfront : Upfront text token, here = place.advanceOver upfront.trivia ∧
      rest = Feed.ofText (place.advanceOver (upfront.trivia ++ upfront.lexeme.text))
        upfront.behind := by
  obtain ⟨after, next_eq, rest_eq, place_eq⟩ := TokenStream.next_of_feed_cons feed_eq
  suffices upfront : Nonempty (Upfront text token) by
    obtain ⟨upfront⟩ := upfront
    obtain ⟨-, place_eq, rest_eq⟩ := Feed.cons_inj.mp (feed_eq.symm.trans (upfront.feed_eq place))
    exact ⟨upfront, place_eq, rest_eq⟩
  obtain ⟨trivia, text_eq, -, skipped, -⟩ := Reader.skipTriviaIn_skips false place text
  have scanned : (TokenStream.startingAt place text).scan = (.ok (some token), after) := next_eq
  rw [TokenStream.scan, Reader.skipTrivia] at scanned
  change text = trivia ++ _ at text_eq
  dsimp only [TokenStream.startingAt] at scanned
  generalize Reader.skipTriviaIn false text place = reached at text_eq skipped scanned
  split at scanned
  · cases scanned
  · split at scanned
    · cases scanned
    · rename_i lexeme found
      split at scanned
      · cases scanned
      · rename_i stands
        cases scanned
        obtain ⟨behind, remaining_eq⟩ := Lexeme.text_eq_append_of_longest? found
        rw [remaining_eq] at text_eq skipped found
        exact ⟨{ trivia, lexeme, behind, text_eq, skipped, found, stands }⟩

/-! ## Putting a mark in front of a token -/

/-- A token of a text, which starts at some place, and what the text feeds if a mark is put directly in
front of that token. -/
structure Insertion (mark : Punctuation) (place : Position) (text : List Char)
    (before : List (Token × Position)) (token : Token) (here : Position) where
  /-- What is in front of the token. -/
  front : List Char
  /-- Its lexeme. -/
  lexeme : Lexeme
  /-- What follows. -/
  behind : List Char
  /-- The parts make up the text. -/
  text_eq : text = front ++ (lexeme.text ++ behind)
  /-- The lexeme is found in front of what follows. -/
  found : Lexeme.longest? (lexeme.text ++ behind) = some lexeme
  /-- It stands for the token. -/
  stands : lexeme.token? = some token
  /-- The token is at its place. -/
  place_eq : here = place.advanceOver front
  /-- The other tokens are before it. -/
  earlier : ∀ other ∈ before, other.2 < here
  /-- They stay where they are, the mark comes behind them, and behind it the text is split as if it
  started there. -/
  feed_eq : Feed.ofText place (front ++ mark.symbol :: (lexeme.text ++ behind)) =
    ((Feed.ofText (here.advance mark.symbol) (lexeme.text ++ behind)).cons (.punctuation mark)
      here).precede before

namespace Upfront

variable {text : List Char} {token : Token}

/-- A mark in front of the first token. -/
def insertion (upfront : Upfront text token) (mark : Punctuation) (place : Position) :
    Insertion mark place text [] token (place.advanceOver upfront.trivia) where
  front := upfront.trivia
  lexeme := upfront.lexeme
  behind := upfront.behind
  text_eq := upfront.text_eq
  found := upfront.found
  stands := upfront.stands
  place_eq := rfl
  earlier := by rintro _ ⟨⟩
  feed_eq := by
    rw [(upfront.mark mark).feed_eq place]
    change (Feed.ofText (place.advanceOver (upfront.trivia ++ [mark.symbol])) _).cons _ _ = _
    rw [Position.advanceOver_append]
    rfl

/-- A mark in front of a later token. -/
def insertionBehind (upfront : Upfront text token) {mark : Punctuation} {place here : Position}
    {others : List (Token × Position)} {found : Token}
    (inner : Insertion mark (place.advanceOver (upfront.trivia ++ upfront.lexeme.text))
      upfront.behind others found here) :
    Insertion mark place text ((token, place.advanceOver upfront.trivia) :: others) found here where
  front := upfront.trivia ++ (upfront.lexeme.text ++ inner.front)
  lexeme := inner.lexeme
  behind := inner.behind
  text_eq := by
    rw [List.append_assoc, List.append_assoc, ← inner.text_eq]
    exact upfront.text_eq
  found := inner.found
  stands := inner.stands
  place_eq := by
    rw [← List.append_assoc, Position.advanceOver_append, ← inner.place_eq]
  earlier := by
    refine List.forall_mem_cons.mpr ⟨?_, inner.earlier⟩
    rw [inner.place_eq, ← Position.advanceOver_append, List.append_assoc, Position.advanceOver_append]
    exact Position.lt_advanceOver _ (by simp [upfront.text_ne_nil])
  feed_eq := by
    -- The lexeme is followed by what it was followed by, or by the mark.
    have exchanges := exchanges_append_mark mark inner.front (inner.lexeme.text ++ inner.behind)
    rw [← inner.text_eq] at exchanges
    rw [List.append_assoc, List.append_assoc, (upfront.exchange _ exchanges).feed_eq place]
    change (Feed.ofText (place.advanceOver (upfront.trivia ++ upfront.lexeme.text))
      (inner.front ++ mark.symbol :: (inner.lexeme.text ++ inner.behind))).cons token
        (place.advanceOver upfront.trivia) = _
    rw [inner.feed_eq]
    rfl

end Upfront

/-- A mark can be put in front of every token. -/
theorem Feed.exists_insertion (mark : Punctuation) {place here : Position} {text : List Char}
    {before behind : List (Token × Position)} {found : Token}
    (placed_eq : (Feed.ofText place text).placed = before ++ (found, here) :: behind) :
    Nonempty (Insertion mark place text before found here) := by
  induction before generalizing place text with
  | nil =>
      have feed_eq : Feed.ofText place text =
          { (Feed.ofText place text) with placed := behind }.cons found here := by
        rw [cons, ← List.nil_append ((found, here) :: behind), ← placed_eq]
      obtain ⟨upfront, rfl, -⟩ := exists_upfront feed_eq
      exact ⟨upfront.insertion mark place⟩
  | cons first others induction =>
      obtain ⟨token, tokenAt⟩ := first
      have feed_eq : Feed.ofText place text =
          { (Feed.ofText place text) with placed := others ++ (found, here) :: behind }.cons
            token tokenAt := by
        rw [cons, ← List.cons_append, ← placed_eq]
      obtain ⟨upfront, rfl, rest_eq⟩ := exists_upfront feed_eq
      obtain ⟨inner⟩ := induction (congrArg Feed.placed rest_eq.symm)
      exact ⟨upfront.insertionBehind inner⟩

end Luso
