import Luso.Source.Reader
import Luso.Text.Blank
import Luso.Token.Lexeme

/-!
# Token streams

A stream hands out the tokens of a source text one at a time and can look one token ahead.  Blanks
and comments between tokens are passed over.  A lexical error is neither passed over nor kept, so
it is met again by every later request.
-/

namespace Luso

/-- Why a source text cannot be split into tokens. -/
inductive LexicalError where
  /-- A character that starts no token. -/
  | unrecognisedCharacter (character : Char) (position : Position)
  /-- An integer literal beyond 32 bits. -/
  | invalidNumber (lexeme : String) (position : Position)
deriving DecidableEq

namespace Reader

/-- Pass over blanks and comments in a text that starts at the given position.  A comment reaches
from `#` to the end of its line. -/
def skipTriviaIn (commented : Bool) : List Char → Position → Reader
  | [], position => { remaining := [], position }
  | character :: rest, position =>
      if commented then
        skipTriviaIn (character != '\n') rest (position.advance character)
      else if Text.isBlank character then
        skipTriviaIn false rest (position.advance character)
      else if character = '#' then
        skipTriviaIn true rest (position.advance character)
      else
        { remaining := character :: rest, position }

/-- Pass over blanks and comments. -/
def skipTrivia (reader : Reader) : Reader :=
  skipTriviaIn false reader.remaining reader.position

theorem skipTriviaIn_length_le (commented : Bool) (text : List Char) (position : Position) :
    (skipTriviaIn commented text position).remaining.length ≤ text.length := by
  induction text generalizing commented position with
  | nil => exact Nat.le_refl _
  | cons character rest ih =>
      rw [skipTriviaIn, List.length_cons]
      split
      · exact Nat.le_succ_of_le (ih _ _)
      · split
        · exact Nat.le_succ_of_le (ih _ _)
        · split
          · exact Nat.le_succ_of_le (ih _ _)
          · exact Nat.le_refl _

theorem skipTrivia_length_le (reader : Reader) :
    reader.skipTrivia.remaining.length ≤ reader.remaining.length :=
  skipTriviaIn_length_le _ _ _

end Reader

/-- A source of tokens with one token of lookahead. -/
structure TokenStream where
  /-- Where the next token is looked for. -/
  reader : Reader
  /-- What was already looked at but not handed out: a token or the end of the text. -/
  lookahead : Option (Option Token)
  /-- Where the token looked for last starts, or where the text ends. -/
  tokenStart : Position

namespace TokenStream

/-- The stream at the beginning of a source text. -/
def ofSource (source : String) : TokenStream :=
  { reader := Reader.ofText source.toList, lookahead := none, tokenStart := Position.start }

/-- An upper bound for the number of tokens still to be handed out. -/
def size (stream : TokenStream) : Nat :=
  stream.reader.remaining.length + (if stream.lookahead.any Option.isSome then 1 else 0)

/-- Take the next token off the text, `none` at its end.  Of a token that cannot be read, only the
blanks and comments before it are passed over. -/
def scan (stream : TokenStream) : Except LexicalError (Option Token) × TokenStream :=
  let reader := stream.reader.skipTrivia
  let start := reader.position
  let stopped : TokenStream := { reader, lookahead := none, tokenStart := start }
  match reader.remaining with
  | [] => (.ok none, stopped)
  | character :: _ =>
      match Lexeme.longest? reader.remaining with
      | none => (.error (.unrecognisedCharacter character start), stopped)
      | some lexeme =>
          match lexeme.token? with
          | none => (.error (.invalidNumber (String.ofList lexeme.text) start), stopped)
          | some token => (.ok (some token), { stopped with reader := reader.consume lexeme.text })

/-- Hand out the next token, `none` at the end of the text. -/
def next (stream : TokenStream) : Except LexicalError (Option Token) × TokenStream :=
  match stream.lookahead with
  | some token => (.ok token, { stream with lookahead := none })
  | none => stream.scan

/-- Look at the next token without handing it out. -/
def peek (stream : TokenStream) : Except LexicalError (Option Token) × TokenStream :=
  match stream.lookahead with
  | some token => (.ok token, stream)
  | none =>
      match stream.scan with
      | (.ok token, scanned) => (.ok token, { scanned with lookahead := some token })
      | failed => failed

/-- Hand out the next token as an item of a sequence that is over at the end of the text. -/
def pull (stream : TokenStream) : Option (Except LexicalError Token) × TokenStream :=
  match stream.next with
  | (.ok (some token), after) => (some (.ok token), after)
  | (.ok none, after) => (none, after)
  | (.error error, after) => (some (.error error), after)

theorem scan_size_lt {stream after : TokenStream} {token : Token}
    (scanned : stream.scan = (.ok (some token), after)) :
    after.lookahead = none ∧
      after.reader.remaining.length < stream.reader.remaining.length := by
  have trivia := stream.reader.skipTrivia_length_le
  simp only [scan] at scanned
  split at scanned
  · simp at scanned
  · rename_i character rest remaining_eq
    split at scanned
    · simp at scanned
    · rename_i lexeme found
      split at scanned
      · simp at scanned
      · obtain ⟨-, rfl⟩ := Prod.mk.inj scanned
        have positive := Lexeme.text_length_pos_of_longest? found
        refine ⟨rfl, ?_⟩
        rw [Reader.consume_remaining, List.length_drop]
        rw [remaining_eq, List.length_cons] at trivia ⊢
        omega

theorem scan_end {stream after : TokenStream} (scanned : stream.scan = (.ok none, after)) :
    after.lookahead = none ∧
      after.reader.remaining.length ≤ stream.reader.remaining.length := by
  have trivia := stream.reader.skipTrivia_length_le
  simp only [scan] at scanned
  split at scanned
  · rename_i remaining_eq
    obtain ⟨-, rfl⟩ := Prod.mk.inj scanned
    exact ⟨rfl, trivia⟩
  · split at scanned
    · simp at scanned
    · split at scanned
      · simp at scanned
      · simp at scanned

/-- Handing out a token leaves less to hand out. -/
theorem next_size_lt {stream after : TokenStream} {token : Token}
    (handed : stream.next = (.ok (some token), after)) : after.size < stream.size := by
  rw [next] at handed
  split at handed
  · rename_i seen lookahead_eq
    obtain ⟨seen_eq, rfl⟩ := Prod.mk.inj handed
    obtain rfl := Except.ok.inj seen_eq
    simp [size, lookahead_eq]
  · rename_i unread
    obtain ⟨lookahead_eq, shorter⟩ := scan_size_lt handed
    simp only [size, lookahead_eq, unread]
    exact Nat.add_lt_add_right shorter _

/-- Looking ahead never adds anything to hand out. -/
theorem peek_size_le {stream after : TokenStream} {token : Option Token}
    (looked : stream.peek = (.ok token, after)) : after.size ≤ stream.size := by
  rw [peek] at looked
  split at looked
  · obtain ⟨-, rfl⟩ := Prod.mk.inj looked
    exact Nat.le_refl _
  · rename_i lookahead_eq
    split at looked
    · rename_i seen scanned scan_eq
      obtain ⟨-, rfl⟩ := Prod.mk.inj looked
      cases seen with
      | none =>
          have shorter := (scan_end scan_eq).2
          simpa [size, lookahead_eq] using shorter
      | some token =>
          have shorter := (scan_size_lt scan_eq).2
          simp only [size, lookahead_eq, Option.any_some, Option.isSome_some, Option.any_none]
          simp
          omega
    · rename_i not_ok
      exact absurd looked (not_ok token after)

/-- All tokens still to be handed out, or the first error among them. -/
def tokens (stream : TokenStream) : Except LexicalError (List Token) :=
  match _handed : stream.next with
  | (.error error, _) => .error error
  | (.ok none, _) => .ok []
  | (.ok (some token), after) =>
      match after.tokens with
      | .error error => .error error
      | .ok rest => .ok (token :: rest)
termination_by stream.size
decreasing_by exact next_size_lt _handed

end TokenStream

/-- Split a source text into its tokens. -/
def tokenize (source : String) : Except LexicalError (List Token) :=
  (TokenStream.ofSource source).tokens

end Luso
