import Luso.Diagnostic.Error
import Luso.Proofs.Token.Feed
import Luso.Proofs.Token.Lexeme
import Mathlib.Data.List.Forall2

/-!
# How a text splits into tokens

A source text consists of lexemes with blanks and comments around them, each character in exactly one
of these.  The feed of a text is made of its lexemes in order, and it breaks off at the first place
where an integer is too great or nothing can start.
-/

namespace Luso

/-- Blanks and comments in front of a text.  A comment reaches up to the next line feed or to the end
of the whole text. -/
inductive Trivia : List Char → List Char → Prop where
  | nil {behind} : Trivia [] behind
  | blank {character trivia behind} :
      Text.isBlank character = true → Trivia trivia behind → Trivia (character :: trivia) behind
  | comment {body trivia behind} :
      '\n' ∉ body → (∀ next ∈ (trivia ++ behind).head?, next = '\n') → Trivia trivia behind →
      Trivia ('#' :: (body ++ trivia)) behind

/-- From a place on, a text consists of lexemes, each with the place where it starts, of blanks and
comments around them, and of a rest that starts at another place. -/
inductive Splits : Position → List Char → List (List Char × Position) → Position → List Char →
    Prop where
  | stop {place trivia rest} :
      Trivia trivia rest → Splits place (trivia ++ rest) [] (place.advanceOver trivia) rest
  | lexeme {place trivia lexeme behind lexemes stop rest} :
      Trivia trivia (lexeme ++ behind) → LexemeAt (lexeme ++ behind) lexeme →
      Splits (place.advanceOver (trivia ++ lexeme)) behind lexemes stop rest →
      Splits place (trivia ++ (lexeme ++ behind)) ((lexeme, place.advanceOver trivia) :: lexemes)
        stop rest

/-- The error with which the scan stops in front of a rest that starts at a place. -/
def Refused (place : Position) (rest : List Char) (error : LexicalError) : Prop :=
  (∀ digits, Oversized rest digits → error = .invalidNumber (String.ofList digits) place) ∧
  ((∀ digits, ¬ Oversized rest digits) →
    ∃ character behind, rest = character :: behind ∧ StartsNothing character ∧
      error = .unrecognisedCharacter character place)

theorem Refused.position_eq {place : Position} {rest : List Char} {error : LexicalError}
    (refused : Refused place rest error) : error.position = place := by
  by_cases oversized : ∃ digits, Oversized rest digits
  · obtain ⟨digits, oversized⟩ := oversized
    rw [refused.1 digits oversized]
    rfl
  · obtain ⟨character, behind, -, -, rfl⟩ := refused.2 (not_exists.mp oversized)
    rfl

theorem refused_oversized {place : Position} {rest digits : List Char}
    (oversized : Oversized rest digits) :
    Refused place rest (.invalidNumber (String.ofList digits) place) := by
  refine ⟨fun others same => ?_, fun none => absurd oversized (none digits)⟩
  rw [oversized.eq_takeWhile, same.eq_takeWhile]

theorem refused_startsNothing {place : Position} {character : Char} {behind : List Char}
    (nothing : StartsNothing character) :
    Refused place (character :: behind) (.unrecognisedCharacter character place) := by
  refine ⟨fun digits oversized => ?_, fun _ => ⟨character, behind, rfl, nothing, rfl⟩⟩
  have digit := oversized.isDigit
  rw [nothing.2.1] at digit
  cases digit

/-! ## Blanks and comments -/

namespace Trivia

variable {character : Char} {trivia behind : List Char}

theorem comment_cons (inLine : character ≠ '\n') (opened : Trivia ('#' :: trivia) behind) :
    Trivia ('#' :: character :: trivia) behind := by
  generalize text_eq : '#' :: trivia = text at opened
  cases opened with
  | nil => cases text_eq
  | blank isBlank _ =>
      obtain ⟨rfl, -⟩ := List.cons.inj text_eq
      cases isBlank
  | @comment body others behind noFeed ends rest =>
      obtain rfl := (List.cons.inj text_eq).2
      have longer : '\n' ∉ character :: body := by
        simpa [noFeed] using inLine.symm
      exact .comment longer ends rest

theorem comment_lineFeed (rest : Trivia trivia behind) : Trivia ('#' :: '\n' :: trivia) behind :=
  @Trivia.comment [] _ _ (by simp) (by rintro next ⟨⟩; rfl) (.blank rfl rest)

end Trivia

namespace Reader

/-- From a place on, only trivia of a text was passed over, and something else comes next.  Inside a
comment, the text is trivia together with the sign that has opened the comment. -/
def Skips (commented : Bool) (place : Position) (text : List Char) (reached : Reader) : Prop :=
  ∃ trivia, text = trivia ++ reached.remaining ∧ reached.position = place.advanceOver trivia ∧
    Trivia (bif commented then '#' :: trivia else trivia) reached.remaining ∧
    ∀ next ∈ reached.remaining.head?, Text.isBlank next = false ∧ next ≠ '#'

theorem Skips.cons {commented inComment : Bool} {place : Position} {character : Char}
    {text : List Char} {reached : Reader}
    (skips : Skips inComment (place.advance character) text reached)
    (extend : ∀ {trivia}, Trivia (bif inComment then '#' :: trivia else trivia) reached.remaining →
      Trivia (bif commented then '#' :: character :: trivia else character :: trivia)
        reached.remaining) :
    Skips commented place (character :: text) reached := by
  obtain ⟨trivia, text_eq, place_eq, skipped, ahead⟩ := skips
  exact ⟨character :: trivia, congrArg _ text_eq, place_eq, extend skipped, ahead⟩

theorem skipTriviaIn_skips (commented : Bool) (place : Position) (text : List Char) :
    Skips commented place text (skipTriviaIn commented text place) := by
  induction text generalizing commented place with
  | nil =>
      refine ⟨[], rfl, rfl, ?_, by rintro next ⟨⟩⟩
      cases commented with
      | false => exact .nil
      | true => exact @Trivia.comment [] _ _ (by simp) (by rintro next ⟨⟩) .nil
  | cons character rest induction =>
      rw [skipTriviaIn]
      cases commented with
      | true =>
          refine (induction (character != '\n') (place.advance character)).cons fun skipped => ?_
          by_cases lineFeed : character = '\n'
          · subst lineFeed
            exact .comment_lineFeed skipped
          · rw [bne_iff_ne.mpr lineFeed] at skipped ⊢
            exact skipped.comment_cons lineFeed
      | false =>
          rw [if_neg Bool.false_ne_true]
          split
          · rename_i isBlank
            exact (induction false (place.advance character)).cons (.blank isBlank)
          · rename_i noBlank
            split
            · rename_i sign
              exact (induction true (place.advance character)).cons (sign ▸ id)
            · rename_i noComment
              refine ⟨[], rfl, rfl, .nil, ?_⟩
              rintro next ⟨⟩
              exact ⟨by simpa using noBlank, noComment⟩

end Reader

theorem Reader.consume_of_remaining_eq {reader : Reader} {text behind : List Char}
    (remaining_eq : reader.remaining = text ++ behind) :
    (reader.consume text).remaining = behind ∧
      (reader.consume text).position = reader.position.advanceOver text := by
  simp [consume, skip, remaining_eq]

/-! ## Places -/

namespace Position

/-- A place comes before another one: on an earlier line, or on the same line in an earlier column. -/
instance : LT Position where
  lt first second :=
    first.line < second.line ∨ first.line = second.line ∧ first.column < second.column

variable {first second third : Position}

theorem lt_iff : first < second ↔
    first.line < second.line ∨ first.line = second.line ∧ first.column < second.column :=
  Iff.rfl

theorem lt_trans (before : first < second) (between : second < third) : first < third := by
  rw [lt_iff] at *
  omega

theorem lt_irrefl (place : Position) : ¬place < place := by
  rw [lt_iff]
  omega

theorem lt_advance (place : Position) (character : Char) : place < place.advance character := by
  rw [lt_iff, advance]
  split
  · exact .inl (Nat.lt_succ_self _)
  · exact .inr ⟨rfl, Nat.lt_succ_self _⟩

/-- Whoever passes over a text of at least one character ends up later. -/
theorem lt_advanceOver (place : Position) {text : List Char} (nonempty : text ≠ []) :
    place < place.advanceOver text := by
  induction text generalizing place with
  | nil => exact absurd rfl nonempty
  | cons character rest induction =>
      rw [advanceOver_cons]
      cases rest with
      | nil => exact lt_advance place character
      | cons next others =>
          exact lt_trans (lt_advance place character) (induction _ (List.cons_ne_nil _ _))

end Position

theorem LexemeAt.ne_nil {text lexeme : List Char} (here : LexemeAt text lexeme) : lexeme ≠ [] := by
  rcases here with ⟨-, word | digits | ⟨whole, fraction, rfl, -⟩, -⟩ | ⟨-, rfl, -, -⟩
  · obtain ⟨first, tail, rfl, -⟩ := word
    exact List.cons_ne_nil _ _
  · exact digits.1
  · simp
  · exact List.cons_ne_nil _ _

namespace Splits

variable {place stop : Position} {text rest : List Char} {lexemes : List (List Char × Position)}

/-- The place of the rest is the place behind all that lies in front of it. -/
theorem exists_front (splits : Splits place text lexemes stop rest) :
    ∃ front, text = front ++ rest ∧ stop = place.advanceOver front := by
  induction splits with
  | @stop place trivia rest _ => exact ⟨trivia, rfl, rfl⟩
  | @lexeme place trivia lexeme _ _ _ rest _ _ _ induction =>
      obtain ⟨front, rfl, rfl⟩ := induction
      exact ⟨trivia ++ lexeme ++ front, by simp, (Position.advanceOver_append _ _ _).symm⟩

/-- Every lexeme starts before the rest. -/
theorem lt_stop (splits : Splits place text lexemes stop rest) {lexeme : List Char × Position}
    (member : lexeme ∈ lexemes) : lexeme.2 < stop := by
  induction splits with
  | stop => cases member
  | @lexeme place trivia first behind _ _ _ _ here splits induction =>
      cases member with
      | head =>
          obtain ⟨front, -, rfl⟩ := splits.exists_front
          rw [Position.advanceOver_append, ← Position.advanceOver_append _ first front]
          exact Position.lt_advanceOver _ (by simp [here.ne_nil])
      | tail _ member => exact induction member

end Splits

/-! ## Tokens -/

theorem exists_left_of_forall₂ {α β : Type} {related : α → β → Prop} {left : List α}
    {right : List β} {member : β} (all : List.Forall₂ related left right)
    (mem_right : member ∈ right) : ∃ other ∈ left, related other member := by
  induction all with
  | nil => cases mem_right
  | cons first _ induction =>
      cases mem_right with
      | head => exact ⟨_, List.mem_cons_self, first⟩
      | tail _ mem_rest =>
          obtain ⟨other, other_mem, rest⟩ := induction mem_rest
          exact ⟨other, List.mem_cons_of_mem _ other_mem, rest⟩

/-- What stands behind the tokens of a text: nothing at its end, or what is refused. -/
def Ending.StandsAt (place : Position) (rest : List Char) : Ending → Prop
  | .finished finish => rest = [] ∧ finish = place
  | .broken error => Refused place rest error

/-- The feed of a text that starts at a place: tokens for its lexemes, at their places, as far as it
can be split. -/
def Feed.Reports (place : Position) (text : List Char) (feed : Feed) : Prop :=
  ∃ lexemes stop rest, Splits place text lexemes stop rest ∧
    List.Forall₂ (fun lexeme token => Classifies lexeme.1 token.1 ∧ lexeme.2 = token.2) lexemes
      feed.placed ∧
    feed.ending.StandsAt stop rest

namespace Feed.Reports

variable {place : Position} {text : List Char} {feed : Feed}

theorem of_ending {trivia rest : List Char} {ending : Ending} (skipped : Trivia trivia rest)
    (stands : ending.StandsAt (place.advanceOver trivia) rest) :
    Feed.Reports place (trivia ++ rest) { placed := [], ending } :=
  ⟨[], _, rest, .stop skipped, .nil, stands⟩

theorem cons {trivia lexeme behind : List Char} {token : Token}
    (skipped : Trivia trivia (lexeme ++ behind)) (here : LexemeAt (lexeme ++ behind) lexeme)
    (classified : Classifies lexeme token)
    (reports : feed.Reports (place.advanceOver (trivia ++ lexeme)) behind) :
    (feed.cons token (place.advanceOver trivia)).Reports place (trivia ++ (lexeme ++ behind)) := by
  obtain ⟨lexemes, stop, rest, splits, classify, stands⟩ := reports
  exact ⟨_, stop, rest, .lexeme skipped here splits, .cons ⟨classified, rfl⟩ classify, stands⟩

/-- If the text can be split, its end is the place behind all of it. -/
theorem finish_eq {finish : Position} (reports : feed.Reports place text)
    (finished : feed.ending = .finished finish) : finish = place.advanceOver text := by
  obtain ⟨lexemes, stop, rest, splits, -, stands⟩ := reports
  rw [finished] at stands
  obtain ⟨rfl, rfl⟩ := stands
  obtain ⟨front, rfl, finish_eq⟩ := splits.exists_front
  rw [finish_eq, List.append_nil]

/-- Every token starts before the place where the text breaks off. -/
theorem lt_of_broken {error : LexicalError} {token : Token × Position}
    (reports : feed.Reports place text) (broken : feed.ending = .broken error)
    (member : token ∈ feed.placed) : token.2 < error.position := by
  obtain ⟨lexemes, stop, rest, splits, classify, stands⟩ := reports
  rw [broken] at stands
  obtain ⟨lexeme, lexeme_mem, -, place_eq⟩ := exists_left_of_forall₂ classify member
  rw [← place_eq, stands.position_eq]
  exact splits.lt_stop lexeme_mem

end Feed.Reports

namespace TokenStream

/-- A stream that has looked at nothing yet feeds what its text splits into. -/
theorem feed_reports (stream : TokenStream) (unread : stream.lookahead = none) :
    stream.feed.Reports stream.reader.position stream.reader.remaining := by
  obtain ⟨trivia, text_eq, place_eq, skipped, ahead⟩ :=
    Reader.skipTriviaIn_skips false stream.reader.position stream.reader.remaining
  have next_eq : stream.next = stream.scan := by rw [next, unread]
  rw [scan, Reader.skipTrivia] at next_eq
  generalize Reader.skipTriviaIn false stream.reader.remaining stream.reader.position = reached
    at text_eq place_eq skipped ahead next_eq
  rw [text_eq]
  dsimp only at next_eq
  split at next_eq
  · rename_i remaining_eq
    rw [feed_of_next_end next_eq, remaining_eq]
    exact .of_ending (remaining_eq ▸ skipped) ⟨rfl, place_eq⟩
  · rename_i first behind remaining_eq
    split at next_eq
    · rename_i missing
      rw [remaining_eq] at missing skipped ahead
      obtain ⟨noBlank, noComment⟩ := ahead first rfl
      have nothing := Lexeme.startsNothing_of_longest? missing noBlank noComment
      rw [feed_of_next_error next_eq, remaining_eq, place_eq]
      exact .of_ending skipped (refused_startsNothing nothing)
    · rename_i lexeme found
      split at next_eq
      · rename_i stands
        have oversized := Lexeme.oversized_of_longest? found stands
        rw [feed_of_next_error next_eq, place_eq]
        exact .of_ending skipped (refused_oversized oversized)
      · rename_i token stands
        -- The rest is shorter, and the induction says how it splits.
        have shorter := next_size_lt next_eq
        have here := Lexeme.lexemeAt_of_longest? found
        have classified := Lexeme.classifies_of_longest? found stands
        obtain ⟨behind, split_eq⟩ := Lexeme.text_eq_append_of_longest? found
        obtain ⟨behind_eq, stop_eq⟩ := Reader.consume_of_remaining_eq split_eq
        have reports := feed_reports
          { reader := reached.consume lexeme.text, lookahead := none, tokenStart := reached.position }
          rfl
        rw [behind_eq, stop_eq, place_eq, ← Position.advanceOver_append] at reports
        rw [split_eq] at here skipped
        rw [feed_of_next_token next_eq, split_eq, place_eq]
        exact reports.cons skipped here classified
termination_by stream.size

end TokenStream

theorem feedOf_reports (source : String) : (feedOf source).Reports .start source.toList :=
  TokenStream.feed_reports (TokenStream.ofSource source) rfl

/-- A source text is split without loss: it consists of lexemes with blanks and comments around them,
and the tokens are those of the lexemes in order.  If something is left over, it is what the error
tells about, at the place where it starts. -/
theorem tokenize_splits (source : String) :
    ∃ lexemes tokens stop rest,
      Splits .start source.toList lexemes stop rest ∧
      List.Forall₂ (fun lexeme token => Classifies lexeme.1 token) lexemes tokens ∧
      match tokenize source with
      | .ok found => found = tokens ∧ rest = []
      | .error error => Refused stop rest error := by
  obtain ⟨lexemes, stop, rest, splits, classify, stands⟩ := feedOf_reports source
  refine ⟨lexemes, (feedOf source).tokens, stop, rest, splits, ?_, ?_⟩
  · rw [Feed.tokens, List.forall₂_map_right_iff]
    exact classify.imp fun _ _ classified => classified.1
  · rw [tokenize_eq_result_feedOf, Feed.result]
    cases ending_eq : (feedOf source).ending with
    | finished finish =>
        rw [ending_eq] at stands
        exact ⟨rfl, stands.1⟩
    | broken error =>
        rw [ending_eq] at stands
        exact stands

end Luso
