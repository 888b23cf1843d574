import Luso.Token.Stream

/-!
# Feeds

What a stream still has to hand out is a list of tokens with the places where they start, and behind
them either the end of the text or a lexical error.  Looking ahead keeps this feed, handing out takes
the first token off it; how far the text was scanned already does not matter.
-/

namespace Luso

/-- What comes behind the last token that can be read. -/
inductive Ending where
  /-- The text ends at the given place. -/
  | finished (place : Position)
  /-- The text cannot be split any further. -/
  | broken (error : LexicalError)
deriving DecidableEq

/-- What a stream hands out. -/
structure Feed where
  /-- The tokens in order, each with the place where it starts. -/
  placed : List (Token × Position)
  /-- What comes behind them. -/
  ending : Ending

namespace Feed

/-- The tokens without their places. -/
def tokens (feed : Feed) : List Token :=
  feed.placed.map Prod.fst

/-- The feed with one more token in front. -/
def cons (token : Token) (place : Position) (feed : Feed) : Feed :=
  { feed with placed := (token, place) :: feed.placed }

/-- The feed behind its first tokens. -/
def drop (feed : Feed) (count : Nat) : Feed :=
  { feed with placed := feed.placed.drop count }

/-- The tokens as a result, which is the error if the text cannot be split. -/
def result (feed : Feed) : Except LexicalError (List Token) :=
  match feed.ending with
  | .finished _ => .ok feed.tokens
  | .broken error => .error error

/-- A feed is at its end, or it has a first token. -/
theorem eq_ending_or_cons (feed : Feed) :
    (∃ place, feed = { placed := [], ending := .finished place }) ∨
    (∃ error, feed = { placed := [], ending := .broken error }) ∨
    ∃ token place, ∃ rest : Feed, feed = rest.cons token place := by
  rcases feed with ⟨_ | ⟨⟨token, place⟩, placed⟩, ending⟩
  · cases ending with
    | finished place => exact .inl ⟨place, rfl⟩
    | broken error => exact .inr (.inl ⟨error, rfl⟩)
  · exact .inr (.inr ⟨token, place, { placed, ending }, rfl⟩)

theorem cons_inj {first second : Feed} {token token' : Token} {place place' : Position} :
    first.cons token place = second.cons token' place' ↔
      token = token' ∧ place = place' ∧ first = second := by
  cases first
  cases second
  simp only [cons, mk.injEq, List.cons.injEq, Prod.mk.injEq, and_assoc]

theorem result_cons (token : Token) (place : Position) (feed : Feed) :
    (feed.cons token place).result = feed.result.map (token :: ·) := by
  rcases feed with ⟨placed, place | error⟩ <;> rfl

theorem result_eq_ok_iff {feed : Feed} {tokens : List Token} :
    feed.result = .ok tokens ↔ feed.tokens = tokens ∧ ∃ place, feed.ending = .finished place := by
  rcases feed with ⟨placed, place | error⟩ <;> simp [result]

theorem result_eq_error_iff {feed : Feed} {error : LexicalError} :
    feed.result = .error error ↔ feed.ending = .broken error := by
  rcases feed with ⟨placed, place | other⟩ <;> simp [result]

end Feed

namespace TokenStream

/-- What a stream still hands out. -/
def feed (stream : TokenStream) : Feed :=
  match _handed : stream.next with
  | (.error error, _) => { placed := [], ending := .broken error }
  | (.ok none, after) => { placed := [], ending := .finished after.tokenStart }
  | (.ok (some token), after) => after.feed.cons token after.tokenStart
termination_by stream.size
decreasing_by exact next_size_lt _handed

variable {stream after : TokenStream} {token : Token} {place : Position} {error : LexicalError}
  {seen : Option Token} {rest : Feed}

theorem feed_of_next_token (handed : stream.next = (.ok (some token), after)) :
    stream.feed = after.feed.cons token after.tokenStart := by
  rw [feed]
  split <;> simp_all

theorem feed_of_next_end (handed : stream.next = (.ok none, after)) :
    stream.feed = { placed := [], ending := .finished after.tokenStart } := by
  rw [feed]
  split <;> simp_all

theorem feed_of_next_error (handed : stream.next = (.error error, after)) :
    stream.feed = { placed := [], ending := .broken error } := by
  rw [feed]
  split <;> simp_all

/-- What a stream hands out next decides about all that it hands out. -/
theorem feed_congr {other : TokenStream} (next_eq : stream.next = other.next) :
    stream.feed = other.feed := by
  rcases handed : other.next with ⟨error | (_ | token), after⟩
  · rw [feed_of_next_error (next_eq.trans handed), feed_of_next_error handed]
  · rw [feed_of_next_end (next_eq.trans handed), feed_of_next_end handed]
  · rw [feed_of_next_token (next_eq.trans handed), feed_of_next_token handed]

/-- The tokens of a stream are those of its feed. -/
theorem tokens_eq_result_feed (stream : TokenStream) : stream.tokens = stream.feed.result := by
  rw [tokens]
  split
  · rename_i handed
    rw [feed_of_next_error handed, Feed.result]
  · rename_i handed
    rw [feed_of_next_end handed, Feed.result]
    rfl
  · rename_i token after handed
    rw [feed_of_next_token handed, Feed.result_cons, ← tokens_eq_result_feed after]
    cases after.tokens <;> rfl
termination_by stream.size
decreasing_by exact next_size_lt ‹stream.next = _›

/-! ## Handing out -/

theorem next_of_feed_cons (feed_eq : stream.feed = rest.cons token place) :
    ∃ after, stream.next = (.ok (some token), after) ∧ after.feed = rest ∧
      after.tokenStart = place := by
  rcases handed : stream.next with ⟨error | seen, after⟩
  · cases (feed_of_next_error handed).symm.trans feed_eq
  · cases seen with
    | none => cases (feed_of_next_end handed).symm.trans feed_eq
    | some other =>
        obtain ⟨rfl, place_eq, rest_eq⟩ :=
          Feed.cons_inj.mp ((feed_of_next_token handed).symm.trans feed_eq)
        exact ⟨after, rfl, rest_eq, place_eq⟩

theorem next_of_feed_finished
    (feed_eq : stream.feed = { placed := [], ending := .finished place }) :
    ∃ after, stream.next = (.ok none, after) ∧ after.tokenStart = place := by
  rcases handed : stream.next with ⟨error | seen, after⟩
  · cases (feed_of_next_error handed).symm.trans feed_eq
  · cases seen with
    | none =>
        cases (feed_of_next_end handed).symm.trans feed_eq
        exact ⟨after, rfl, rfl⟩
    | some other => cases (feed_of_next_token handed).symm.trans feed_eq

theorem next_of_feed_broken (feed_eq : stream.feed = { placed := [], ending := .broken error }) :
    ∃ after, stream.next = (.error error, after) := by
  rcases handed : stream.next with ⟨other | seen, after⟩
  · cases (feed_of_next_error handed).symm.trans feed_eq
    exact ⟨after, rfl⟩
  · cases seen with
    | none => cases (feed_of_next_end handed).symm.trans feed_eq
    | some other => cases (feed_of_next_token handed).symm.trans feed_eq

/-! ## Looking ahead -/

theorem scan_lookahead (scanned : stream.scan = (.ok seen, after)) : after.lookahead = none := by
  cases seen with
  | none => exact (scan_end scanned).1
  | some token => exact (scan_size_lt scanned).1

/-- What is looked at is what would be handed out, and it still is. -/
theorem peek_of_next (handed : stream.next = (.ok seen, after)) :
    ∃ ahead, stream.peek = (.ok seen, ahead) ∧ ahead.next = (.ok seen, after) ∧
      ahead.tokenStart = after.tokenStart := by
  rw [next] at handed
  split at handed
  · rename_i known lookahead_eq
    obtain ⟨seen_eq, rfl⟩ := Prod.mk.inj handed
    obtain rfl := Except.ok.inj seen_eq
    exact ⟨stream, by rw [peek, lookahead_eq], by rw [next, lookahead_eq], rfl⟩
  · rename_i lookahead_eq
    refine ⟨{ after with lookahead := some seen }, ?_, ?_, rfl⟩
    · rw [peek, lookahead_eq, handed]
    · rw [next, ← scan_lookahead handed]

theorem peek_of_next_error (handed : stream.next = (.error error, after)) :
    stream.peek = (.error error, after) := by
  rw [next] at handed
  split at handed
  · cases handed
  · rename_i lookahead_eq
    rw [peek, lookahead_eq, handed]

theorem peek_of_feed_cons (feed_eq : stream.feed = rest.cons token place) :
    ∃ ahead, stream.peek = (.ok (some token), ahead) ∧ ahead.feed = stream.feed ∧
      ahead.tokenStart = place := by
  obtain ⟨after, handed, rest_eq, place_eq⟩ := next_of_feed_cons feed_eq
  obtain ⟨ahead, looked, again, start_eq⟩ := peek_of_next handed
  refine ⟨ahead, looked, ?_, start_eq.trans place_eq⟩
  rw [feed_of_next_token again, rest_eq, place_eq, feed_eq]

theorem peek_of_feed_finished
    (feed_eq : stream.feed = { placed := [], ending := .finished place }) :
    ∃ ahead, stream.peek = (.ok none, ahead) ∧ ahead.feed = stream.feed ∧
      ahead.tokenStart = place := by
  obtain ⟨after, handed, place_eq⟩ := next_of_feed_finished feed_eq
  obtain ⟨ahead, looked, again, start_eq⟩ := peek_of_next handed
  refine ⟨ahead, looked, ?_, start_eq.trans place_eq⟩
  rw [feed_of_next_end again, place_eq, feed_eq]

theorem peek_of_feed_broken (feed_eq : stream.feed = { placed := [], ending := .broken error }) :
    ∃ ahead, stream.peek = (.error error, ahead) := by
  obtain ⟨after, handed⟩ := next_of_feed_broken feed_eq
  exact ⟨after, peek_of_next_error handed⟩

end TokenStream

/-- What a source text hands out from its beginning. -/
def feedOf (source : String) : Feed :=
  (TokenStream.ofSource source).feed

theorem tokenize_eq_result_feedOf (source : String) : tokenize source = (feedOf source).result :=
  TokenStream.tokens_eq_result_feed _

end Luso
