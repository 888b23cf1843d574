import Luso.Proofs.Token.Feed

/-!
# Upcoming tokens

A stream is known by the tokens that it hands out next and by the feed behind them: looking ahead
shows the first token and keeps them all, handing out takes the first one off.  If nothing but the end
of the text is behind them, then these are all the tokens left.
-/

namespace Luso
namespace Feed

/-- The feed with more tokens in front. -/
def precede (placed : List (Token × Position)) (feed : Feed) : Feed :=
  { feed with placed := placed ++ feed.placed }

/-- Looking ahead at tokens in front of this feed shows one of them, or the end of the text. -/
def Sighted (following : Feed) (tokens : List Token) : Prop :=
  tokens = [] → ∃ place, following = { placed := [], ending := .finished place }

theorem sighted_cons (following : Feed) (token : Token) (rest : List Token) :
    following.Sighted (token :: rest) := by
  rintro ⟨⟩

theorem Sighted.of_suffix {following : Feed} {rest tokens : List Token}
    (sighted : following.Sighted rest) (suffix : rest <:+ tokens) : following.Sighted tokens := by
  rintro rfl
  exact sighted (List.suffix_nil.mp suffix)

end Feed

namespace TokenStream

variable {stream : TokenStream} {token : Token} {tokens rest : List Token} {following : Feed}

/-- A stream hands out these tokens and then the feed behind them. -/
def Offers (stream : TokenStream) (tokens : List Token) (following : Feed) : Prop :=
  ∃ placed, placed.map Prod.fst = tokens ∧ stream.feed = following.precede placed

theorem tokens_eq_ok_iff :
    stream.tokens = .ok tokens ↔
      ∃ place, stream.Offers tokens { placed := [], ending := .finished place } := by
  rw [tokens_eq_result_feed, Feed.result_eq_ok_iff]
  constructor
  · rintro ⟨tokens_eq, place, ending_eq⟩
    refine ⟨place, stream.feed.placed, tokens_eq, ?_⟩
    simp [Feed.precede, ← ending_eq]
  · rintro ⟨place, placed, rfl, feed_eq⟩
    rw [feed_eq]
    simp [Feed.precede, Feed.tokens]

namespace Offers

theorem of_feed_eq {other : TokenStream} (offers : stream.Offers tokens following)
    (feed_eq : other.feed = stream.feed) : other.Offers tokens following := by
  rwa [Offers, feed_eq]

theorem feed_of_nil (offers : stream.Offers [] following) : stream.feed = following := by
  obtain ⟨placed, tokens_eq, feed_eq⟩ := offers
  obtain rfl := List.map_eq_nil_iff.mp tokens_eq
  exact feed_eq

theorem feed_of_cons (offers : stream.Offers (token :: rest) following) :
    ∃ place placed, placed.map Prod.fst = rest ∧
      stream.feed = (following.precede placed).cons token place := by
  obtain ⟨_ | ⟨⟨first, place⟩, placed⟩, tokens_eq, feed_eq⟩ := offers
  · cases tokens_eq
  · obtain ⟨rfl, rest_eq⟩ := List.cons.inj tokens_eq
    exact ⟨place, placed, rest_eq, feed_eq⟩

theorem refl (stream : TokenStream) : stream.Offers [] stream.feed :=
  ⟨[], rfl, rfl⟩

/-- A stream hands out its tokens, and then the text ends or breaks off. -/
theorem all (stream : TokenStream) :
    stream.Offers stream.feed.tokens { placed := [], ending := stream.feed.ending } :=
  ⟨stream.feed.placed, rfl, by simp [Feed.precede]⟩

theorem feed_tokens {ending : Ending} (offers : stream.Offers tokens { placed := [], ending }) :
    stream.feed.tokens = tokens := by
  obtain ⟨placed, rfl, feed_eq⟩ := offers
  simp [feed_eq, Feed.precede, Feed.tokens]

/-- What one stream hands out before another one is in front of what that one hands out. -/
theorem trans {middle : TokenStream} (first : stream.Offers tokens middle.feed)
    (second : middle.Offers rest following) : stream.Offers (tokens ++ rest) following := by
  obtain ⟨placed, rfl, feed_eq⟩ := first
  obtain ⟨others, rfl, middle_eq⟩ := second
  refine ⟨placed ++ others, List.map_append, ?_⟩
  rw [feed_eq, middle_eq, Feed.precede, Feed.precede, Feed.precede, List.append_assoc]

/-- If all the tokens left behind the first ones can be read, then so can all of them. -/
theorem tokens_eq_ok {middle : TokenStream} (first : stream.Offers tokens middle.feed)
    (rest_eq : middle.tokens = .ok rest) : stream.tokens = .ok (tokens ++ rest) := by
  obtain ⟨place, offers⟩ := tokens_eq_ok_iff.mp rest_eq
  exact tokens_eq_ok_iff.mpr ⟨place, first.trans offers⟩

/-- The first token is handed out, and the others stay. -/
theorem next (offers : stream.Offers (token :: rest) following) :
    ∃ after, stream.next = (.ok (some token), after) ∧ after.Offers rest following := by
  obtain ⟨place, placed, rest_eq, feed_eq⟩ := offers.feed_of_cons
  obtain ⟨after, handed, others_eq, -⟩ := next_of_feed_cons feed_eq
  exact ⟨after, handed, placed, rest_eq, others_eq⟩

/-- Looking ahead shows what comes first and keeps it. -/
theorem peek (offers : stream.Offers tokens following) (sighted : following.Sighted tokens) :
    ∃ ahead, stream.peek = (.ok tokens.head?, ahead) ∧ ahead.Offers tokens following := by
  cases tokens with
  | nil =>
      obtain ⟨place, rfl⟩ := sighted rfl
      obtain ⟨ahead, looked, ahead_eq, -⟩ := peek_of_feed_finished offers.feed_of_nil
      exact ⟨ahead, looked, offers.of_feed_eq ahead_eq⟩
  | cons token rest =>
      obtain ⟨place, placed, -, feed_eq⟩ := offers.feed_of_cons
      obtain ⟨ahead, looked, ahead_eq, -⟩ := peek_of_feed_cons feed_eq
      exact ⟨ahead, looked, offers.of_feed_eq ahead_eq⟩

end Offers

end TokenStream
end Luso
