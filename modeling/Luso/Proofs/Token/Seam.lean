import Luso.Proofs.Token.Splitting
import Luso.Proofs.Token.Upcoming

/-!
# One text behind another

A line feed completes whatever stands in front of it, be it a lexeme or a comment.  So a text that is
followed by a line feed is split as it is at the end, and behind the line feed everything starts afresh,
only some lines further down.
-/

namespace Luso

/-! ## Further down -/

/-- The same place some lines further down. -/
def Position.below (place : Position) (lines : Nat) : Position :=
  { place with line := place.line + lines }

/-- The same error some lines further down. -/
def LexicalError.below (lines : Nat) : LexicalError → LexicalError
  | .unrecognisedCharacter character place => .unrecognisedCharacter character (place.below lines)
  | .invalidNumber lexeme place => .invalidNumber lexeme (place.below lines)

/-- The same ending some lines further down. -/
def Ending.below (lines : Nat) : Ending → Ending
  | .finished place => .finished (place.below lines)
  | .broken error => .broken (error.below lines)

/-- The same feed some lines further down. -/
def Feed.below (feed : Feed) (lines : Nat) : Feed :=
  { placed := feed.placed.map fun (token, place) => (token, place.below lines)
    ending := feed.ending.below lines }

/-- The same text some lines further down. -/
def Reader.below (reader : Reader) (lines : Nat) : Reader :=
  { reader with position := reader.position.below lines }

/-- The same stream some lines further down. -/
def TokenStream.below (stream : TokenStream) (lines : Nat) : TokenStream :=
  { stream with
    reader := stream.reader.below lines
    tokenStart := stream.tokenStart.below lines }

theorem Position.advance_below (place : Position) (lines : Nat) (character : Char) :
    (place.below lines).advance character = (place.advance character).below lines := by
  rw [advance, advance]
  split
  · simp only [below, Nat.add_right_comm]
  · rfl

theorem Position.advanceOver_below (place : Position) (lines : Nat) (text : List Char) :
    (place.below lines).advanceOver text = (place.advanceOver text).below lines := by
  induction text generalizing place with
  | nil => rfl
  | cons character rest induction =>
      rw [advanceOver_cons, advanceOver_cons, advance_below, induction]

theorem Reader.consume_below (reader : Reader) (lines : Nat) (text : List Char) :
    (reader.below lines).consume text = (reader.consume text).below lines := by
  simp only [consume, skip, below, Position.advanceOver_below]

theorem Reader.skipTriviaIn_below (commented : Bool) (text : List Char) (place : Position)
    (lines : Nat) :
    skipTriviaIn commented text (place.below lines) =
      (skipTriviaIn commented text place).below lines := by
  induction text generalizing commented place with
  | nil => rfl
  | cons character rest induction =>
      simp only [skipTriviaIn, Position.advance_below, induction]
      split
      · rfl
      · split
        · rfl
        · split <;> rfl

namespace TokenStream

theorem scan_below (stream : TokenStream) (lines : Nat) :
    (stream.below lines).scan =
      (stream.scan.1.mapError (·.below lines), stream.scan.2.below lines) := by
  have skipped : (stream.below lines).reader.skipTrivia = stream.reader.skipTrivia.below lines :=
    Reader.skipTriviaIn_below false _ _ lines
  rw [scan, scan, skipped]
  generalize stream.reader.skipTrivia = reader
  simp only [Reader.below]
  split
  · rfl
  · split
    · rfl
    · split
      · rfl
      · rename_i lexeme _ _ token _
        have consumed := Reader.consume_below reader lines lexeme.text
        rw [Reader.below] at consumed
        rw [consumed]
        rfl

theorem next_below (stream : TokenStream) (lines : Nat) :
    (stream.below lines).next =
      (stream.next.1.mapError (·.below lines), stream.next.2.below lines) := by
  rw [next, next]
  cases lookahead_eq : stream.lookahead with
  | none =>
      simp only [below, lookahead_eq]
      exact scan_below stream lines
  | some token => simp only [below, lookahead_eq]; rfl

theorem feed_below (stream : TokenStream) (lines : Nat) :
    (stream.below lines).feed = stream.feed.below lines := by
  have further := next_below stream lines
  rcases handed : stream.next with ⟨error | (_ | token), after⟩
  all_goals rw [handed] at further
  · rw [feed_of_next_error further, feed_of_next_error handed]
    rfl
  · rw [feed_of_next_end further, feed_of_next_end handed]
    rfl
  · have shorter := next_size_lt handed
    rw [feed_of_next_token further, feed_of_next_token handed, feed_below after lines]
    rfl
termination_by stream.size

end TokenStream

/-! ## In front of a line feed -/

section LineFeed

variable {text behind : List Char}

theorem takeWhile_append_of_stop {test : Char → Bool} {stop : Char} (stops : test stop = false) :
    (text ++ stop :: behind).takeWhile test = text.takeWhile test := by
  induction text with
  | nil => simp [stops]
  | cons first rest induction => simp only [List.cons_append, List.takeWhile_cons, induction]

theorem dropWhile_append_of_stop {test : Char → Bool} {stop : Char} (stops : test stop = false) :
    (text ++ stop :: behind).dropWhile test = text.dropWhile test ++ stop :: behind := by
  induction text with
  | nil => simp [stops]
  | cons first rest induction =>
      simp only [List.cons_append, List.dropWhile_cons, induction]
      split <;> rfl

theorem Lexeme.numberAt_append_lineFeed :
    numberAt (text ++ '\n' :: behind) = numberAt text := by
  have stops : Text.isDigit '\n' = false := rfl
  rw [numberAt, numberAt, takeWhile_append_of_stop stops, dropWhile_append_of_stop stops]
  rcases text.dropWhile Text.isDigit with _ | ⟨first, rest⟩
  · rfl
  · by_cases point : first = '.'
    · subst point
      simp only [List.cons_append, takeWhile_append_of_stop stops]
    · simp [point]

/-- No lexeme reaches beyond its line. -/
theorem Lexeme.longest?_append_lineFeed (nonempty : text ≠ []) :
    longest? (text ++ '\n' :: behind) = longest? text := by
  cases text with
  | nil => exact absurd rfl nonempty
  | cons first rest =>
      have number := @numberAt_append_lineFeed (first :: rest) behind
      have word := @takeWhile_append_of_stop rest behind Text.isWordTail '\n' rfl
      rw [List.cons_append] at number ⊢
      rw [longest?, longest?, number, word]

/-- Blanks and comments that reach up to the line feed include it. -/
theorem Reader.skipTriviaIn_append_lineFeed (commented : Bool) (place : Position) :
    skipTriviaIn commented (text ++ '\n' :: behind) place =
      match skipTriviaIn commented text place with
      | { remaining := [], position } => skipTriviaIn false behind (position.advance '\n')
      | { remaining := first :: rest, position } =>
          { remaining := first :: (rest ++ '\n' :: behind), position } := by
  induction text generalizing commented place with
  | nil => cases commented <;> rfl
  | cons character rest induction =>
      rw [List.cons_append, skipTriviaIn, skipTriviaIn]
      split
      · exact induction _ _
      · split
        · exact induction _ _
        · split
          · exact induction _ _
          · rfl

theorem Reader.consume_append (text rest : List Char) (place : Position) :
    ({ remaining := text ++ rest, position := place } : Reader).consume text =
      { remaining := rest, position := place.advanceOver text } := by
  simp [consume, skip]

namespace TokenStream

variable {stream after : TokenStream}

/-- The same stream with more text at its end. -/
def followedBy (stream : TokenStream) (text : List Char) : TokenStream :=
  { stream with reader := { stream.reader with remaining := stream.reader.remaining ++ text } }

/-- The stream at a place where a text starts. -/
def startingAt (place : Position) (text : List Char) : TokenStream :=
  { reader := { remaining := text, position := place }, lookahead := none, tokenStart := place }

theorem scan_followedBy_of_token {token : Token}
    (scanned : stream.scan = (.ok (some token), after)) :
    (stream.followedBy ('\n' :: behind)).scan =
      (.ok (some token), after.followedBy ('\n' :: behind)) := by
  have skipped := @Reader.skipTriviaIn_append_lineFeed stream.reader.remaining behind false
    stream.reader.position
  rw [scan, Reader.skipTrivia] at scanned ⊢
  simp only [followedBy, skipped]
  generalize Reader.skipTriviaIn false stream.reader.remaining stream.reader.position = reached
    at scanned
  obtain ⟨_ | ⟨first, rest⟩, place⟩ := reached
  · cases scanned
  · have longest := @Lexeme.longest?_append_lineFeed (first :: rest) behind (List.cons_ne_nil _ _)
    rw [List.cons_append] at longest
    dsimp only at scanned ⊢
    rw [longest]
    split at scanned
    · cases scanned
    · rename_i lexeme found
      split at scanned
      · cases scanned
      · rename_i stands
        obtain ⟨rest', rest_eq⟩ := Lexeme.text_eq_append_of_longest? found
        cases scanned
        have shortened := Reader.consume_append lexeme.text rest' place
        have longer := Reader.consume_append lexeme.text (rest' ++ '\n' :: behind) place
        rw [← List.append_assoc, ← rest_eq] at longer
        rw [← rest_eq] at shortened
        rw [shortened, ← List.cons_append]
        dsimp only
        rw [longer]

theorem scan_followedBy_of_end (scanned : stream.scan = (.ok none, after)) :
    (stream.followedBy ('\n' :: behind)).scan =
      (startingAt (after.tokenStart.advance '\n') behind).scan := by
  have skipped := @Reader.skipTriviaIn_append_lineFeed stream.reader.remaining behind false
    stream.reader.position
  rw [scan, Reader.skipTrivia] at scanned ⊢
  simp only [followedBy, skipped]
  generalize Reader.skipTriviaIn false stream.reader.remaining stream.reader.position = reached
    at scanned
  obtain ⟨_ | ⟨first, rest⟩, place⟩ := reached
  · cases scanned
    rfl
  · dsimp only at scanned
    split at scanned
    · cases scanned
    · split at scanned <;> cases scanned

/-- The tokens in front of the line feed stay, and what is behind it starts on the next line. -/
theorem feed_followedBy (stream : TokenStream) (behind : List Char) {finish : Position}
    (unread : stream.lookahead = none) (finished : stream.feed.ending = .finished finish) :
    (stream.followedBy ('\n' :: behind)).feed =
      (startingAt (finish.advance '\n') behind).feed.precede stream.feed.placed := by
  have next_eq : stream.next = stream.scan := by rw [next, unread]
  have longer_eq : (stream.followedBy ('\n' :: behind)).next =
      (stream.followedBy ('\n' :: behind)).scan := by
    rw [next, followedBy, unread]
  rcases scanned : stream.scan with ⟨error | (_ | token), after⟩
  all_goals rw [scanned] at next_eq
  · rw [feed_of_next_error next_eq] at finished
    cases finished
  · rw [feed_of_next_end next_eq] at finished ⊢
    obtain rfl := Ending.finished.inj finished
    exact feed_congr (longer_eq.trans (scan_followedBy_of_end scanned))
  · rw [feed_of_next_token next_eq] at finished ⊢
    have shorter := next_size_lt next_eq
    have others := feed_followedBy after behind (scan_lookahead scanned) finished
    rw [feed_of_next_token (longer_eq.trans (scan_followedBy_of_token scanned)), others]
    rfl
termination_by stream.size

end TokenStream
end LineFeed

/-! ## Source texts -/

theorem Position.advanceOver_line (place : Position) (text : List Char) :
    (place.advanceOver text).line = place.line + text.count '\n' := by
  induction text generalizing place with
  | nil => rfl
  | cons character rest induction =>
      rw [advanceOver_cons, induction, advance, List.count_cons]
      split
      · simp_all
        omega
      · simp_all

/-- How much further down a text starts behind another one and a line feed. -/
def linesOf (source : String) : Nat :=
  source.toList.count '\n' + 1

/-- If a text can be split, then a text behind it and a line feed feeds its tokens in front of its own,
and everything of its own is that many lines further down. -/
theorem feedOf_append_lineFeed {source : String} {finish : Position}
    (finished : (feedOf source).ending = .finished finish) (behind : String) :
    feedOf (source ++ "\n" ++ behind) =
      ((feedOf behind).below (linesOf source)).precede (feedOf source).placed := by
  have finish_eq := (feedOf_reports source).finish_eq finished
  have place_eq : finish.advance '\n' = Position.start.below (linesOf source) := by
    have line_eq := Position.advanceOver_line .start source.toList
    rw [← finish_eq] at line_eq
    simp [Position.advance, Position.below, linesOf, line_eq, Position.start]
    omega
  have joined : TokenStream.ofSource (source ++ "\n" ++ behind) =
      (TokenStream.ofSource source).followedBy ('\n' :: behind.toList) := by
    simp [TokenStream.ofSource, TokenStream.followedBy, Reader.ofText]
  rw [feedOf, joined, TokenStream.feed_followedBy _ _ rfl finished, place_eq, ← feedOf]
  exact congrArg _ (TokenStream.feed_below (TokenStream.ofSource behind) _)

end Luso
