import Luso.Proofs.Token.Spelling

/-!
# Looking ahead

A stream may be asked for its tokens in any order of looking and taking.  All that it answers is in its
feed: looking shows what is in front, taking takes it off, and neither changes anything once there are
no more tokens.  So looking never disturbs taking, and whatever has ended or failed stays so.
-/

namespace Luso

/-- What a stream tells when it is asked for a token. -/
inductive Answer where
  /-- The next token. -/
  | token (token : Token)
  /-- The text is at its end. -/
  | ended
  /-- The text cannot be split any further. -/
  | failed (error : LexicalError)

namespace Answer

/-- The answer in a result. -/
def ofResult : Except LexicalError (Option Token) → Answer
  | .ok (some found) => .token found
  | .ok none => .ended
  | .error error => .failed error

/-- The answer in an item of a sequence. -/
def ofItem : Option (Except LexicalError Token) → Answer
  | some (.ok found) => .token found
  | none => .ended
  | some (.error error) => .failed error

end Answer

namespace TokenStream

/-- The ways of asking a stream for a token. -/
inductive Call where
  /-- Look at it. -/
  | peek
  /-- Take it. -/
  | next
  /-- Take it as an item of a sequence. -/
  | pull

/-- Whether a token that is told is handed out. -/
def Call.consumes : Call → Bool
  | .peek => false
  | .next | .pull => true

/-- What a call tells, and the stream behind it. -/
def Call.perform : Call → TokenStream → Answer × TokenStream
  | .peek, stream =>
      let (result, ahead) := stream.peek
      (.ofResult result, ahead)
  | .next, stream =>
      let (result, after) := stream.next
      (.ofResult result, after)
  | .pull, stream =>
      let (item, after) := stream.pull
      (.ofItem item, after)

/-- A call with what it tells and the place that the stream names afterwards. -/
structure Exchange where
  /-- The call. -/
  call : Call
  /-- What it tells. -/
  answer : Answer
  /-- Where the stream says that the token looked for last starts. -/
  place : Position

/-- What comes of some calls in a row. -/
def serve (stream : TokenStream) : List Call → List Exchange
  | [] => []
  | call :: rest =>
      let (answer, after) := call.perform stream
      { call, answer, place := after.tokenStart } :: after.serve rest

end TokenStream

open TokenStream (Call Exchange)

/-! ## Calls on a feed -/

namespace Feed

/-- What is in front of a feed, and its place. -/
def front (feed : Feed) : Answer × Position :=
  match feed.placed, feed.ending with
  | (token, place) :: _, _ => (.token token, place)
  | [], .finished place => (.ended, place)
  | [], .broken error => (.failed error, error.position)

/-- The feed behind a call. -/
def behind (feed : Feed) (call : Call) : Feed :=
  feed.drop (if call.consumes then 1 else 0)

/-- What comes of some calls in a row if each shows what is in front. -/
def serve (feed : Feed) : List Call → List Exchange
  | [] => []
  | call :: rest =>
      { call, answer := feed.front.1, place := feed.front.2 } :: (feed.behind call).serve rest

theorem behind_of_placed_nil {feed : Feed} (empty : feed.placed = []) (call : Call) :
    feed.behind call = feed := by
  rw [behind, drop, empty, List.drop_nil, ← empty]

theorem drop_drop (feed : Feed) (first second : Nat) :
    (feed.drop first).drop second = feed.drop (first + second) := by
  simp only [drop, List.drop_drop]

/-- Without the calls that only look, the others come to the same. -/
theorem serve_filter (feed : Feed) (calls : List Call) :
    (feed.serve calls).filter (·.call.consumes) = feed.serve (calls.filter Call.consumes) := by
  induction calls generalizing feed with
  | nil => rfl
  | cons call rest induction =>
      rw [serve, List.filter_cons, List.filter_cons, induction]
      cases call with
      | peek => rfl
      | next | pull => rfl

/-- After the calls in front of it, a call shows what is behind the tokens that they have taken. -/
theorem serve_getElem? (feed : Feed) (calls : List Call) (index : Nat) :
    (feed.serve calls)[index]? = calls[index]?.map fun call =>
      let front := (feed.drop ((calls.take index).countP Call.consumes)).front
      { call, answer := front.1, place := front.2 } := by
  induction calls generalizing feed index with
  | nil => rfl
  | cons call rest induction =>
      cases index with
      | zero => rfl
      | succ index =>
          rw [serve, List.getElem?_cons_succ, List.getElem?_cons_succ, induction,
            List.take_succ_cons, List.countP_cons]
          simp only [behind, drop_drop, Nat.add_comm]

/-- Whoever takes something after only looking gets what was in front. -/
theorem answer_of_serve_eq {feed : Feed} {calls : List Call} {between back : List Exchange}
    {consumed : Exchange} (serve_eq : feed.serve calls = between ++ consumed :: back)
    (looks : ∀ exchange ∈ between, exchange.call = .peek) : consumed.answer = feed.front.1 := by
  induction between generalizing calls with
  | nil =>
      cases calls with
      | nil => cases serve_eq
      | cons call rest => exact congrArg Exchange.answer (List.cons.inj serve_eq).1.symm
  | cons first others induction =>
      cases calls with
      | nil => cases serve_eq
      | cons call rest =>
          obtain ⟨rfl, rest_eq⟩ := List.cons.inj serve_eq
          obtain rfl : call = .peek := looks _ List.mem_cons_self
          exact induction rest_eq fun exchange member =>
            looks exchange (List.mem_cons_of_mem _ member)

theorem answer_of_peek {feed : Feed} {calls : List Call} {before between back : List Exchange}
    {peeked consumed : Exchange}
    (serve_eq : feed.serve calls = before ++ peeked :: (between ++ consumed :: back))
    (peeks : peeked.call = .peek) (looks : ∀ exchange ∈ between, exchange.call = .peek) :
    consumed.answer = peeked.answer := by
  induction before generalizing feed calls with
  | nil =>
      cases calls with
      | nil => cases serve_eq
      | cons call rest =>
          obtain ⟨rfl, rest_eq⟩ := List.cons.inj serve_eq
          obtain rfl : call = .peek := peeks
          exact answer_of_serve_eq rest_eq looks
  | cons first others induction =>
      cases calls with
      | nil => cases serve_eq
      | cons call rest => exact induction (List.cons.inj serve_eq).2

/-- When there are no more tokens, every call tells the same. -/
theorem answer_of_placed_nil {feed : Feed} (empty : feed.placed = []) {calls : List Call}
    {exchange : Exchange} (member : exchange ∈ feed.serve calls) :
    exchange.answer = feed.front.1 := by
  induction calls with
  | nil => cases member
  | cons call rest induction =>
      rw [serve, behind_of_placed_nil empty] at member
      cases member with
      | head => rfl
      | tail _ later => exact induction later

end Feed

/-- What is told of the end or of an error is told again later. -/
def TokenStream.Exchange.Lasts (earlier later : Exchange) : Prop :=
  (earlier.answer = .ended → later.answer = .ended) ∧
    ∀ error, earlier.answer = .failed error → later.answer = .failed error

theorem Feed.serve_lasts (feed : Feed) (calls : List Call) :
    (feed.serve calls).Pairwise Exchange.Lasts := by
  induction calls generalizing feed with
  | nil => exact .nil
  | cons call rest induction =>
      refine .cons (fun later member => ?_) (induction _)
      -- A token in front of the feed is neither the end nor an error.
      obtain ⟨_ | ⟨⟨token, place⟩, placed⟩, ending⟩ := feed
      · rw [behind_of_placed_nil rfl] at member
        have same := answer_of_placed_nil rfl member
        exact ⟨same.trans, fun _ => same.trans⟩
      · exact ⟨by rintro ⟨⟩, by rintro _ ⟨⟩⟩

/-! ## Calls on a stream -/

theorem Reader.skipTrivia_skipTrivia (reader : Reader) :
    reader.skipTrivia.skipTrivia = reader.skipTrivia := by
  obtain ⟨-, -, -, -, ahead⟩ := skipTriviaIn_skips false reader.position reader.remaining
  exact skipTrivia_of_visible ahead

namespace TokenStream

variable {stream after : TokenStream} {error : LexicalError}

/-- A stream that has seen the end of its text stands there. -/
def Settled (stream : TokenStream) : Prop :=
  stream.lookahead = some none →
    stream.reader.remaining = [] ∧ stream.reader.position = stream.tokenStart

theorem settled_of_unread (unread : stream.lookahead = none) : stream.Settled := by
  intro ended
  cases unread.symm.trans ended

theorem scan_of_remaining_nil (empty : stream.reader.remaining = []) :
    stream.scan = (.ok none,
      { reader := stream.reader, lookahead := none, tokenStart := stream.reader.position }) := by
  have skipped : stream.reader.skipTrivia = stream.reader :=
    Reader.skipTrivia_of_visible (by rw [empty]; rintro next ⟨⟩)
  simp only [scan, skipped, empty]

/-- At the end of the text, the stream behind a scan stands where it looks for the next token. -/
theorem scan_end_stands (scanned : stream.scan = (.ok none, after)) :
    after.reader.remaining = [] ∧ after.reader.position = after.tokenStart := by
  rw [scan] at scanned
  split at scanned
  · rename_i empty
    cases scanned
    exact ⟨empty, rfl⟩
  · split at scanned
    · cases scanned
    · split at scanned <;> cases scanned

/-- What cannot be read is met again in the same way, and its place is known. -/
theorem scan_of_scan_error (scanned : stream.scan = (.error error, after)) :
    after.scan = (.error error, after) ∧ after.lookahead = none ∧
      after.tokenStart = error.position := by
  have again : after.reader.skipTrivia = after.reader := by
    rw [scan] at scanned
    split at scanned
    · cases scanned
    · split at scanned
      · cases scanned
        exact stream.reader.skipTrivia_skipTrivia
      · split at scanned
        · cases scanned
          exact stream.reader.skipTrivia_skipTrivia
        · cases scanned
  rw [scan] at scanned
  split at scanned
  · cases scanned
  · rename_i character rest remaining_eq
    split at scanned
    · rename_i missing
      cases scanned
      refine ⟨?_, rfl, rfl⟩
      simp only [scan, again, remaining_eq]
      rw [remaining_eq] at missing
      rw [missing]
    · rename_i lexeme found
      split at scanned
      · rename_i stands
        cases scanned
        refine ⟨?_, rfl, rfl⟩
        simp only [scan, again, remaining_eq]
        rw [remaining_eq] at found
        simp only [found, stands]
      · cases scanned

/-- The next call finds a stream where the end of the text was met as it was left. -/
theorem next_of_next_end (settled : stream.Settled) (handed : stream.next = (.ok none, after)) :
    after.next = (.ok none, after) ∧ after.Settled := by
  have unread : after.lookahead = none ∧ after.reader.remaining = [] ∧
      after.reader.position = after.tokenStart := by
    rw [next] at handed
    split at handed
    · rename_i seen lookahead_eq
      cases handed
      exact ⟨rfl, settled lookahead_eq⟩
    · exact ⟨scan_lookahead handed, scan_end_stands handed⟩
  obtain ⟨lookahead_eq, empty, stands⟩ := unread
  refine ⟨?_, settled_of_unread lookahead_eq⟩
  have same : after = { after with lookahead := none } := by rw [← lookahead_eq]
  rw [next, lookahead_eq]
  dsimp only
  rw [scan_of_remaining_nil empty, stands, ← same]

theorem next_of_next_error (handed : stream.next = (.error error, after)) :
    after.next = (.error error, after) ∧ after.tokenStart = error.position ∧ after.Settled := by
  rw [next] at handed
  split at handed
  · cases handed
  · obtain ⟨again, lookahead_eq, place_eq⟩ := scan_of_scan_error handed
    exact ⟨by rw [next, lookahead_eq, again], place_eq, settled_of_unread lookahead_eq⟩

theorem settled_of_next_token {token : Token} (handed : stream.next = (.ok (some token), after)) :
    after.Settled := by
  rw [next] at handed
  split at handed
  · cases handed
    exact settled_of_unread rfl
  · exact settled_of_unread (scan_lookahead handed)

theorem settled_peek (settled : stream.Settled) : stream.peek.2.Settled := by
  rw [peek]
  split
  · exact settled
  · rename_i lookahead_eq
    split
    · rename_i seen scanned scan_eq
      intro ended
      obtain rfl : seen = none := Option.some.inj ended
      have stands := scan_end_stands scan_eq
      exact stands
    · rename_i failed not_ok
      rcases scan_eq : stream.scan with ⟨error | seen, after⟩
      · exact settled_of_unread (scan_of_scan_error scan_eq).2.1
      · exact absurd scan_eq (not_ok seen after)

/-- A call to take something tells what is in front of the feed and takes it off. -/
theorem next_serves (settled : stream.Settled) :
    ∃ result after, stream.next = (result, after) ∧ .ofResult result = stream.feed.front.1 ∧
      after.tokenStart = stream.feed.front.2 ∧ after.feed = stream.feed.drop 1 ∧ after.Settled := by
  rcases handed : stream.next with ⟨error | (_ | token), after⟩
  · obtain ⟨again, place_eq, settled⟩ := next_of_next_error handed
    rw [feed_of_next_error handed]
    exact ⟨_, after, rfl, rfl, place_eq, feed_of_next_error again, settled⟩
  · obtain ⟨again, settled⟩ := next_of_next_end settled handed
    rw [feed_of_next_end handed]
    exact ⟨_, after, rfl, rfl, rfl, feed_of_next_end again, settled⟩
  · rw [feed_of_next_token handed]
    exact ⟨_, after, rfl, rfl, rfl, rfl, settled_of_next_token handed⟩

/-- A call to look tells what is in front of the feed and leaves it there. -/
theorem peek_serves (settled : stream.Settled) :
    ∃ result ahead, stream.peek = (result, ahead) ∧ .ofResult result = stream.feed.front.1 ∧
      ahead.tokenStart = stream.feed.front.2 ∧ ahead.feed = stream.feed ∧ ahead.Settled := by
  have kept := settled_peek settled
  obtain ⟨result, after, handed, result_eq, place_eq, -, -⟩ := next_serves settled
  cases result with
  | error error =>
      have looked := peek_of_next_error handed
      rw [looked] at kept
      have again := (next_of_next_error handed).1
      exact ⟨_, after, looked, result_eq, place_eq, feed_congr (again.trans handed.symm), kept⟩
  | ok seen =>
      obtain ⟨ahead, looked, still, start_eq⟩ := peek_of_next handed
      rw [looked] at kept
      exact ⟨_, ahead, looked, result_eq, start_eq.trans place_eq,
        feed_congr (still.trans handed.symm), kept⟩

/-- An item of a sequence tells what a token that is taken tells. -/
theorem pull_of_next {result : Except LexicalError (Option Token)}
    (handed : stream.next = (result, after)) :
    ∃ item, stream.pull = (item, after) ∧ .ofItem item = Answer.ofResult result := by
  rw [pull, handed]
  rcases result with error | (_ | token) <;> exact ⟨_, rfl, rfl⟩

/-- Every call tells what is in front of the feed, and the stream behind it has the feed behind it. -/
theorem Call.perform_serves (call : Call) (settled : stream.Settled) :
    (call.perform stream).1 = stream.feed.front.1 ∧
      (call.perform stream).2.tokenStart = stream.feed.front.2 ∧
      (call.perform stream).2.feed = stream.feed.behind call ∧ (call.perform stream).2.Settled := by
  obtain ⟨result, after, handed, taken⟩ := next_serves settled
  cases call with
  | peek =>
      obtain ⟨result, ahead, looked, shown⟩ := peek_serves settled
      rw [perform, looked]
      exact shown
  | next =>
      rw [perform, handed]
      exact taken
  | pull =>
      obtain ⟨item, pulled, item_eq⟩ := pull_of_next handed
      rw [← item_eq] at taken
      rw [perform, pulled]
      exact taken

/-- What comes of some calls is what comes of them on the feed. -/
theorem serve_eq_feed_serve (settled : stream.Settled) (calls : List Call) :
    stream.serve calls = stream.feed.serve calls := by
  induction calls generalizing stream with
  | nil => rfl
  | cons call rest induction =>
      obtain ⟨answer_eq, place_eq, feed_eq, settled⟩ := call.perform_serves settled
      rw [serve, Feed.serve, ← answer_eq, ← place_eq, ← feed_eq, ← induction settled]

end TokenStream

/-! ## Source texts -/

/-- After so many tokens were taken, a call is about the lexeme behind them, or about the end of the text
or the error if there is none. -/
def TokenStream.Exchange.IsAbout (source : List Char) (lexemes : List (List Char × Position))
    (stop : Position) (rest : List Char) (taken : Nat) (exchange : Exchange) : Prop :=
  match lexemes[taken]? with
  | some (lexeme, place) =>
      ∃ token, exchange.answer = .token token ∧ Classifies lexeme token ∧ exchange.place = place
  | none =>
      (exchange.answer = .ended ∧ rest = [] ∧
        exchange.place = Position.start.advanceOver source) ∨
      ∃ error, exchange.answer = .failed error ∧ Refused stop rest error ∧
        exchange.place = error.position

theorem Feed.serve_isAbout {source : List Char} {feed : Feed}
    (reports : feed.Reports .start source) (calls : List Call) :
    ∃ lexemes stop rest, Splits .start source lexemes stop rest ∧
      ∀ (index : Nat) (exchange : Exchange), (feed.serve calls)[index]? = some exchange →
        exchange.IsAbout source lexemes stop rest ((calls.take index).countP Call.consumes) := by
  have finish_eq : ∀ finish, feed.ending = .finished finish →
      finish = Position.start.advanceOver source := fun _ => reports.finish_eq
  obtain ⟨lexemes, stop, rest, splits, classify, stands⟩ := reports
  refine ⟨lexemes, stop, rest, splits, fun index exchange here => ?_⟩
  rw [serve_getElem?] at here
  generalize (calls.take index).countP Call.consumes = taken at here
  obtain ⟨call, -, rfl⟩ := Option.map_eq_some_iff.mp here
  have classifyBehind := List.forall₂_drop taken classify
  rw [Exchange.IsAbout, ← List.head?_drop]
  obtain ⟨placed, ending⟩ := feed
  dsimp only [drop]
  generalize lexemes.drop taken = lexemesBehind at classifyBehind
  generalize placed.drop taken = placedBehind at classifyBehind
  cases classifyBehind with
  | nil =>
      cases ending with
      | finished finish => exact .inl ⟨rfl, stands.1, finish_eq finish rfl⟩
      | broken error => exact .inr ⟨error, rfl, stands, rfl⟩
  | cons here _ => exact ⟨_, rfl, here.1, here.2.symm⟩

/-- Looking ahead disturbs nothing: without the calls that only look, the others tell the same, and what
a call to look tells is told by the next one, up to the one that takes it.  Once the end of the text or
an error is told, it is told by every later call.  Each answer is about the lexeme behind those handed
out already, and names the place where it starts; if there is none, it names the end of the text or the
place of the error. -/
theorem TokenStream.serve_looksAhead (source : String) (calls : List Call) :
    ((ofSource source).serve calls).filter (·.call.consumes) =
      (ofSource source).serve (calls.filter Call.consumes) ∧
    (∀ before looked between later back,
      (ofSource source).serve calls = before ++ looked :: (between ++ later :: back) →
      looked.call = .peek → (∀ exchange ∈ between, exchange.call = .peek) →
      later.answer = looked.answer) ∧
    ((ofSource source).serve calls).Pairwise Exchange.Lasts ∧
    ∃ lexemes stop rest, Splits .start source.toList lexemes stop rest ∧
      ∀ (index : Nat) (exchange : Exchange),
        ((ofSource source).serve calls)[index]? = some exchange →
        exchange.IsAbout source.toList lexemes stop rest
          ((calls.take index).countP Call.consumes) := by
  have settled : (ofSource source).Settled := settled_of_unread rfl
  simp only [serve_eq_feed_serve settled]
  exact ⟨Feed.serve_filter _ calls, fun _ _ _ _ _ => Feed.answer_of_peek, Feed.serve_lasts _ calls,
    Feed.serve_isAbout (feedOf_reports source) calls⟩

/-- A name is looked at and taken; the sign behind it cannot be read, now or later. -/
theorem TokenStream.serve_looksAhead_straySign :
    ∃ looked taken failed again : Exchange,
      (ofSource "a\n@").serve [.peek, .next, .pull, .peek] = [looked, taken, failed, again] ∧
      (ofSource "a\n@").serve [.next, .pull] = [taken, failed] ∧
      looked.answer = .token (.identifier "a") ∧ taken.answer = looked.answer ∧
      failed.answer = .failed (.unrecognisedCharacter '@' { line := 2, column := 0 }) ∧
      again.answer = failed.answer := by
  have served : (ofSource "a\n@").serve [.peek, .next, .pull, .peek] =
      [{ call := .peek, answer := .token (.identifier "a"), place := .start },
        { call := .next, answer := .token (.identifier "a"), place := .start },
        { call := .pull
          answer := .failed (.unrecognisedCharacter '@' { line := 2, column := 0 })
          place := { line := 2, column := 0 } },
        { call := .peek
          answer := .failed (.unrecognisedCharacter '@' { line := 2, column := 0 })
          place := { line := 2, column := 0 } }] := by
    cbv
  obtain ⟨taking, looking, lasting, -⟩ :=
    serve_looksAhead "a\n@" [.peek, .next, .pull, .peek]
  rw [served] at taking looking lasting
  refine ⟨_, _, _, _, served, taking.symm, rfl, ?_, rfl, ?_⟩
  · exact looking [] _ [] _ _ rfl rfl (by simp)
  · simp only [List.pairwise_cons] at lasting
    exact (lasting.2.2.1 _ List.mem_cons_self).2 _ rfl

end Luso
