import Luso.Proofs.Syntax.Climbing
import Luso.Proofs.Token.Upcoming
import Luso.Syntax.Reading

/-!
# Readings on streams

A reading that starts from a stream whose tokens are known leaves a stream whose tokens are known.
The steps of a reading take tokens off the front of the list and keep the feed behind them, and
expressions are read as the relation of precedence climbing says, whatever the grammar.
-/

namespace Luso

/-- The outcome is a value, and the stream left hands out the given tokens in front of the feed. -/
def Outcome.Reads {α : Type} {least : Nat} {start : TokenStream} (outcome : Outcome α least start)
    (value : α) (rest : List Token) (following : Feed) : Prop :=
  ∃ after used, outcome = .done value after used ∧ after.Offers rest following

theorem Outcome.Reads.since {α : Type} {least total : Nat} {start middle : TokenStream}
    {outcome : Outcome α least middle} {value : α} {rest : List Token} {following : Feed}
    (reads : outcome.Reads value rest following) (used : middle.size + total ≤ start.size + least) :
    (outcome.since used).Reads value rest following := by
  obtain ⟨after, last, rfl, offers⟩ := reads
  exact ⟨after, _, rfl, offers⟩

theorem Outcome.done_of_since {α : Type} {least total : Nat} {start middle after : TokenStream}
    {outcome : Outcome α least middle} {value : α} {used : middle.size + total ≤ start.size + least}
    {usedTotal : after.size + total ≤ start.size}
    (done : outcome.since used = .done value after usedTotal) :
    ∃ last, outcome = .done value after last := by
  cases outcome with
  | done value after last =>
      cases done
      exact ⟨last, rfl⟩
  | failed error after => cases done

theorem Outcome.done_of_map {α β : Type} {least : Nat} {start after : TokenStream}
    {change : α → β} {outcome : Outcome α least start} {value : β}
    {used : after.size + least ≤ start.size}
    (done : outcome.map change = .done value after used) :
    ∃ original, change original = value ∧ outcome = .done original after used := by
  cases outcome with
  | done original after used =>
      cases done
      exact ⟨original, rfl, rfl⟩
  | failed error after => cases done

/-- Only decimal numbers are compared otherwise than as tokens. -/
theorem Token.equals_eq_decide {token wanted : Token} (notDecimal : wanted.kind ≠ .decimal) :
    token.equals wanted = decide (token = wanted) := by
  cases wanted with
  | decimal => exact absurd rfl notDecimal
  | _ => cases token <;> rfl

namespace Reading

variable {stream after : TokenStream} {tokens rest : List Token} {token wanted : Token}
  {following : Feed} {ending : Ending} {expected : Expectation}

/-! ## Single tokens -/

theorem current_of_peek_ok {found : Option Token}
    (looked : stream.peek = (.ok found, after)) :
    ∃ used, current stream = .done found after used := by
  refine ⟨TokenStream.peek_size_le looked, ?_⟩
  rw [current]
  split
  · rename_i looked'
    cases looked'.symm.trans looked
    rfl
  · rename_i looked'
    cases looked'.symm.trans looked

theorem current_of_peek_error {error : LexicalError}
    (looked : stream.peek = (.error error, after)) :
    current stream = .failed (.lexical error) after := by
  rw [current]
  split
  · rename_i looked'
    cases looked'.symm.trans looked
  · rename_i looked'
    cases looked'.symm.trans looked
    rfl

theorem advance_of_next_token (expected : Expectation)
    (handed : stream.next = (.ok (some token), after)) :
    ∃ used, advance stream expected = .done token after used := by
  refine ⟨TokenStream.next_size_lt handed, ?_⟩
  rw [advance]
  split
  all_goals
    rename_i handed'
    cases handed'.symm.trans handed
  rfl

theorem advance_of_next_end (expected : Expectation)
    (handed : stream.next = (.ok none, after)) :
    advance stream expected = .failed (unexpectedEnd after expected) after := by
  rw [advance]
  split
  all_goals
    rename_i handed'
    cases handed'.symm.trans handed
  rfl

theorem advance_of_next_error {error : LexicalError}
    (expected : Expectation) (handed : stream.next = (.error error, after)) :
    advance stream expected = .failed (.lexical error) after := by
  rw [advance]
  split
  all_goals
    rename_i handed'
    cases handed'.symm.trans handed
  rfl

theorem current_of_feed_cons {place : Position} {others : Feed}
    (feed_eq : stream.feed = others.cons token place) :
    ∃ ahead used, current stream = .done (some token) ahead used ∧ ahead.feed = stream.feed ∧
      ahead.tokenStart = place := by
  obtain ⟨ahead, looked, ahead_eq, place_eq⟩ := TokenStream.peek_of_feed_cons feed_eq
  obtain ⟨used, current_eq⟩ := current_of_peek_ok looked
  exact ⟨ahead, used, current_eq, ahead_eq, place_eq⟩

theorem current_of_feed_finished {place : Position}
    (feed_eq : stream.feed = { placed := [], ending := .finished place }) :
    ∃ ahead used, current stream = .done none ahead used ∧ ahead.feed = stream.feed ∧
      ahead.tokenStart = place := by
  obtain ⟨ahead, looked, ahead_eq, place_eq⟩ := TokenStream.peek_of_feed_finished feed_eq
  obtain ⟨used, current_eq⟩ := current_of_peek_ok looked
  exact ⟨ahead, used, current_eq, ahead_eq, place_eq⟩

theorem current_of_feed_broken {error : LexicalError}
    (feed_eq : stream.feed = { placed := [], ending := .broken error }) :
    ∃ after, current stream = .failed (.lexical error) after := by
  obtain ⟨after, looked⟩ := TokenStream.peek_of_feed_broken feed_eq
  exact ⟨after, current_of_peek_error looked⟩

theorem advance_of_feed_cons {place : Position} {others : Feed} (expected : Expectation)
    (feed_eq : stream.feed = others.cons token place) :
    ∃ after used, advance stream expected = .done token after used ∧ after.feed = others ∧
      after.tokenStart = place := by
  obtain ⟨after, handed, others_eq, place_eq⟩ := TokenStream.next_of_feed_cons feed_eq
  obtain ⟨used, advance_eq⟩ := advance_of_next_token expected handed
  exact ⟨after, used, advance_eq, others_eq, place_eq⟩

theorem advance_of_feed_finished {place : Position} (expected : Expectation)
    (feed_eq : stream.feed = { placed := [], ending := .finished place }) :
    ∃ after, advance stream expected = .failed (unexpectedEnd after expected) after ∧
      after.tokenStart = place := by
  obtain ⟨after, handed, place_eq⟩ := TokenStream.next_of_feed_finished feed_eq
  exact ⟨after, advance_of_next_end expected handed, place_eq⟩

theorem advance_of_feed_broken {error : LexicalError} (expected : Expectation)
    (feed_eq : stream.feed = { placed := [], ending := .broken error }) :
    ∃ after, advance stream expected = .failed (.lexical error) after := by
  obtain ⟨after, handed⟩ := TokenStream.next_of_feed_broken feed_eq
  exact ⟨after, advance_of_next_error expected handed⟩

theorem current_reads (offers : stream.Offers tokens following)
    (sighted : following.Sighted tokens) : (current stream).Reads tokens.head? tokens following := by
  obtain ⟨ahead, looked, aheadOffers⟩ := offers.peek sighted
  obtain ⟨used, current_eq⟩ := current_of_peek_ok looked
  exact ⟨ahead, used, current_eq, aheadOffers⟩

theorem advance_reads (expected : Expectation)
    (offers : stream.Offers (token :: rest) following) :
    (advance stream expected).Reads token rest following := by
  obtain ⟨left, handed, leftOffers⟩ := offers.next
  obtain ⟨used, advance_eq⟩ := advance_of_next_token expected handed
  exact ⟨left, used, advance_eq, leftOffers⟩

theorem expectAs_reads (expected : Expectation) (notDecimal : token.kind ≠ .decimal)
    (offers : stream.Offers (token :: rest) following) :
    (expectAs stream token expected).Reads token rest following := by
  obtain ⟨ahead, looked, current_eq, aheadOffers⟩ :=
    current_reads offers (following.sighted_cons _ _)
  rw [expectAs, current_eq]
  simp only [List.head?_cons, Token.equals_eq_decide notDecimal, decide_true, if_true]
  exact (advance_reads expected aheadOffers).since _

theorem isCurrent_reads (wanted : Token) (notDecimal : wanted.kind ≠ .decimal)
    (offers : stream.Offers tokens following) (sighted : following.Sighted tokens) :
    (isCurrent stream wanted).Reads (decide (tokens.head? = some wanted)) tokens following := by
  obtain ⟨ahead, looked, current_eq, aheadOffers⟩ := current_reads offers sighted
  have met : tokens.head?.any (·.equals wanted) = decide (tokens.head? = some wanted) := by
    cases tokens.head? <;> simp [Token.equals_eq_decide notDecimal]
  rw [isCurrent, current_eq, ← met]
  exact ⟨ahead, looked, rfl, aheadOffers⟩

theorem of_current_done {found : Option Token} {used : after.size + 0 ≤ stream.size}
    (upcoming : stream.Offers tokens { placed := [], ending })
    (done : current stream = .done found after used) :
    found = tokens.head? ∧ after.Offers tokens { placed := [], ending } := by
  -- Behind the last token an error would have stopped the reading.
  have sighted : Feed.Sighted { placed := [], ending } tokens := by
    rintro rfl
    cases ending with
    | finished place => exact ⟨place, rfl⟩
    | broken error =>
        obtain ⟨stopped, current_eq⟩ := current_of_feed_broken upcoming.feed_of_nil
        cases done.symm.trans current_eq
  obtain ⟨ahead, looked, current_eq, aheadOffers⟩ := current_reads upcoming sighted
  cases done.symm.trans current_eq
  exact ⟨rfl, aheadOffers⟩

theorem of_isCurrent_done {met : Bool} {used : after.size + 0 ≤ stream.size}
    (notDecimal : wanted.kind ≠ .decimal) (upcoming : stream.Offers tokens { placed := [], ending })
    (done : isCurrent stream wanted = .done met after used) :
    met = decide (tokens.head? = some wanted) ∧ after.Offers tokens { placed := [], ending } := by
  obtain ⟨found, rfl, current_eq⟩ := Outcome.done_of_map done
  obtain ⟨rfl, after_eq⟩ := of_current_done upcoming current_eq
  refine ⟨?_, after_eq⟩
  cases tokens.head? <;> simp [Token.equals_eq_decide notDecimal]

theorem of_advance_done {used : after.size + 1 ≤ stream.size}
    (upcoming : stream.Offers tokens { placed := [], ending })
    (done : advance stream expected = .done token after used) :
    ∃ rest, tokens = token :: rest ∧ after.Offers rest { placed := [], ending } := by
  cases tokens with
  | nil =>
      cases ending with
      | finished place =>
          obtain ⟨stopped, advance_eq, -⟩ := advance_of_feed_finished expected upcoming.feed_of_nil
          cases advance_eq.symm.trans done
      | broken error =>
          obtain ⟨stopped, advance_eq⟩ := advance_of_feed_broken expected upcoming.feed_of_nil
          cases advance_eq.symm.trans done
  | cons first rest =>
      obtain ⟨left, last, advance_eq, leftOffers⟩ := advance_reads expected upcoming
      cases done.symm.trans advance_eq
      exact ⟨rest, rfl, leftOffers⟩

theorem of_expectAs_done {used : after.size + 1 ≤ stream.size} (notDecimal : wanted.kind ≠ .decimal)
    (upcoming : stream.Offers tokens { placed := [], ending })
    (done : expectAs stream wanted expected = .done token after used) :
    ∃ rest, tokens = wanted :: rest ∧ after.Offers rest { placed := [], ending } := by
  rw [expectAs] at done
  split at done
  · cases done
  · cases done
  · rename_i first ahead looked current_eq
    obtain ⟨first_eq, ahead_eq⟩ := of_current_done upcoming current_eq
    rw [Token.equals_eq_decide notDecimal] at done
    split at done
    · rename_i same
      obtain ⟨last, advance_eq⟩ := Outcome.done_of_since done
      obtain ⟨rest, rfl, rest_eq⟩ := of_advance_done ahead_eq advance_eq
      obtain rfl := Option.some.inj first_eq
      exact ⟨rest, by rw [of_decide_eq_true same], rest_eq⟩
    · cases done

/-! ## Expressions -/

theorem primary_reads {tree : Expression} (literal : token.literal? = some tree)
    (offers : stream.Offers (token :: rest) following) :
    (primary stream).Reads tree rest following := by
  obtain ⟨left, used, advance_eq, leftOffers⟩ := advance_reads .atom offers
  rw [primary, advance_eq]
  cases token <;> cases literal <;> exact ⟨left, used, rfl, leftOffers⟩

theorem of_primary_done {tree : Expression} {used : after.size + 1 ≤ stream.size}
    (upcoming : stream.Offers tokens { placed := [], ending })
    (done : primary stream = .done tree after used) :
    ∃ token rest, tokens = token :: rest ∧ token.literal? = some tree ∧
      after.Offers rest { placed := [], ending } := by
  rw [primary] at done
  split at done
  · cases done
  all_goals
    rename_i advance_eq
    obtain ⟨rest, tokens_eq, rest_eq⟩ := of_advance_done upcoming advance_eq
    cases done
  all_goals exact ⟨_, rest, tokens_eq, rfl, rest_eq⟩

mutual

/-- An expression that is read is read by precedence climbing. -/
theorem climbs_of_expression (grammar : Grammar) (stream : TokenStream) (power : BindingPower)
    {tokens : List Token} {tree : Expression} {after : TokenStream}
    {used : after.size + 1 ≤ stream.size} (upcoming : stream.Offers tokens { placed := [], ending })
    (done : expression grammar stream power = .done tree after used) :
    ∃ rest, after.Offers rest { placed := [], ending } ∧
      Climbs grammar (.whole power) tokens tree rest := by
  rw [expression] at done
  split at done
  · cases done
  · cases done
  · rename_i token ahead looked current_eq
    obtain ⟨token_eq, ahead_eq⟩ := of_current_done upcoming current_eq
    split at done
    · cases done
    · rename_i form registered
      split at done
      · cases done
      · rename_i left behind read atom_eq
        obtain ⟨middle, middle_eq, whole⟩ :=
          climbs_of_atom grammar ahead form ahead_eq token_eq registered atom_eq
        obtain ⟨last, climb_eq⟩ := Outcome.done_of_since done
        obtain ⟨rest, rest_eq, operators⟩ :=
          climbs_of_climb grammar behind left power middle_eq climb_eq
        exact ⟨rest, rest_eq, whole operators⟩
termination_by 2 * stream.size + 1

theorem climbs_of_climb (grammar : Grammar) (stream : TokenStream) (left : Expression)
    (power : BindingPower) {tokens : List Token} {tree : Expression} {after : TokenStream}
    {used : after.size + 0 ≤ stream.size} (upcoming : stream.Offers tokens { placed := [], ending })
    (done : climb grammar stream left power = .done tree after used) :
    ∃ rest, after.Offers rest { placed := [], ending } ∧
      Climbs grammar (.operators left power) tokens tree rest := by
  rw [climb] at done
  split at done
  · cases done
  · rename_i sign ahead looked current_eq
    obtain ⟨token_eq, ahead_eq⟩ := of_current_done upcoming current_eq
    split at done
    · rename_i unregistered
      cases done
      refine ⟨tokens, ahead_eq, .stop ?_⟩
      rw [← token_eq, Grammar.continues, unregistered]
      rfl
    · rename_i own form registered
      split at done
      · rename_i binds
        split at done
        · cases done
        · rename_i whole behind read operation_eq
          obtain ⟨middle, middle_eq, operators⟩ := climbs_of_operation grammar ahead form left own
            ahead_eq token_eq registered binds operation_eq
          obtain ⟨last, climb_eq⟩ := Outcome.done_of_since done
          obtain ⟨rest, rest_eq, more⟩ :=
            climbs_of_climb grammar behind whole power middle_eq climb_eq
          exact ⟨rest, rest_eq, operators more⟩
      · rename_i loose
        cases done
        refine ⟨tokens, ahead_eq, .stop ?_⟩
        rw [← token_eq, Grammar.continues, registered]
        simpa using loose
  · rename_i ahead looked noOperator current_eq
    obtain ⟨token_eq, ahead_eq⟩ := of_current_done upcoming current_eq
    cases done
    exact ⟨tokens, ahead_eq, .stop (token_eq ▸ Grammar.continues_of_no_operator noOperator)⟩
termination_by 2 * stream.size + 1

/-- Behind an atom the operators complete an expression. -/
theorem climbs_of_atom (grammar : Grammar) (stream : TokenStream) (form : AtomForm)
    {tokens : List Token} {token : Token} {left : Expression} {after : TokenStream}
    {used : after.size + 1 ≤ stream.size} (upcoming : stream.Offers tokens { placed := [], ending })
    (first : some token = tokens.head?) (registered : grammar.atom token.kind = some form)
    (done : atom grammar stream form = .done left after used) :
    ∃ middle, after.Offers middle { placed := [], ending } ∧
      ∀ {power tree rest}, Climbs grammar (.operators left power) middle tree rest →
        Climbs grammar (.whole power) tokens tree rest := by
  cases form with
  | primary =>
      rw [atom] at done
      obtain ⟨first', middle, rfl, literal, middle_eq⟩ := of_primary_done upcoming done
      obtain rfl := Option.some.inj first
      exact ⟨middle, middle_eq, .literal registered literal⟩
  | group =>
      rw [atom] at done
      split at done
      · cases done
      · rename_i opening inside opened open_eq
        obtain ⟨contents, rfl, inside_eq⟩ := of_expectAs_done (by rintro ⟨⟩) upcoming open_eq
        obtain rfl := Option.some.inj first
        split at done
        · cases done
        · rename_i value behind read expression_eq
          obtain ⟨closing, closing_eq, value_climbs⟩ :=
            climbs_of_expression grammar inside .lowest inside_eq expression_eq
          split at done
          · cases done
          · rename_i close_eq
            obtain ⟨middle, rfl, middle_eq⟩ := of_expectAs_done (by rintro ⟨⟩) closing_eq close_eq
            cases done
            exact ⟨middle, middle_eq, .group registered value_climbs⟩
termination_by 2 * stream.size

/-- Behind an operator and its right operand the operators go on. -/
theorem climbs_of_operation (grammar : Grammar) (stream : TokenStream) (form : OperatorForm)
    (left : Expression) (own : BindingPower) {power : BindingPower} {tokens : List Token}
    {sign : Operator} {whole : Expression} {after : TokenStream}
    {used : after.size + 1 ≤ stream.size} (upcoming : stream.Offers tokens { placed := [], ending })
    (first : some (.operator sign) = tokens.head?)
    (registered : grammar.operator sign = some (own, form)) (binds : sign.binds own power = true)
    (done : operation grammar stream form left own = .done whole after used) :
    ∃ middle, after.Offers middle { placed := [], ending } ∧
      ∀ {tree rest}, Climbs grammar (.operators whole power) middle tree rest →
        Climbs grammar (.operators left power) tokens tree rest := by
  cases form with
  | binary =>
      rw [operation] at done
      split at done
      · cases done
      · rename_i token behind passed advance_eq
        obtain ⟨operand, rfl, operand_eq⟩ := of_advance_done upcoming advance_eq
        obtain rfl := Option.some.inj first
        split at done
        · cases done
        · rename_i operationSign arithmetic_eq
          obtain ⟨rfl⟩ := Token.operator.inj (Token.eq_of_arithmetic? arithmetic_eq)
          split at done
          · cases done
          · rename_i right behindRight read expression_eq
            obtain ⟨middle, middle_eq, right_climbs⟩ :=
              climbs_of_expression grammar behind own operand_eq expression_eq
            cases done
            exact ⟨middle, middle_eq, .binary registered binds right_climbs⟩
  | assignment =>
      rw [operation] at done
      split at done
      · cases done
      · rename_i assign behind passed expect_eq
        obtain ⟨operand, rfl, operand_eq⟩ := of_expectAs_done (by rintro ⟨⟩) upcoming expect_eq
        obtain rfl := Token.operator.inj (Option.some.inj first)
        split at done
        · cases done
        · rename_i value behindValue read expression_eq
          obtain ⟨middle, middle_eq, value_climbs⟩ :=
            climbs_of_expression grammar behind own operand_eq expression_eq
          split at done
          · cases done
            exact ⟨middle, middle_eq, .assignment registered binds value_climbs⟩
          · cases done
termination_by 2 * stream.size

end

end Reading

/-- A task leads from a stream to a tree and to the given tokens in front of the feed. -/
def Task.Reads (grammar : Grammar) (stream : TokenStream) (tree : Expression)
    (rest : List Token) (following : Feed) : Task → Prop
  | .whole power => (Reading.expression grammar stream power).Reads tree rest following
  | .operators left power => (Reading.climb grammar stream left power).Reads tree rest following

/-- Whatever precedence climbing reads is read from every stream of these tokens. -/
theorem Climbs.reads {grammar : Grammar} {task : Task} {tokens rest : List Token}
    {tree : Expression} {following : Feed} (climbs : Climbs grammar task tokens tree rest)
    (sighted : following.Sighted rest) {stream : TokenStream}
    (offers : stream.Offers tokens following) : task.Reads grammar stream tree rest following := by
  induction climbs generalizing stream with
  | @literal token left behind power tree rest registered literal _ induction =>
      obtain ⟨ahead, looked, current_eq, aheadOffers⟩ :=
        Reading.current_reads offers (following.sighted_cons _ _)
      obtain ⟨middle, used, primary_eq, middleOffers⟩ := Reading.primary_reads literal aheadOffers
      rw [Task.Reads, Reading.expression, current_eq]
      simp only [List.head?_cons, registered, Reading.atom, primary_eq]
      exact (induction sighted middleOffers).since _
  | @group inside left behind power tree rest registered _ _ inner induction =>
      obtain ⟨ahead, looked, current_eq, aheadOffers⟩ :=
        Reading.current_reads offers (following.sighted_cons _ _)
      obtain ⟨contents, opened, open_eq, contentsOffers⟩ :=
        Reading.expectAs_reads .atom (by rintro ⟨⟩) aheadOffers
      obtain ⟨closing, read, expression_eq, closingOffers⟩ :=
        inner (following.sighted_cons _ _) contentsOffers
      obtain ⟨middle, closed, close_eq, middleOffers⟩ :=
        Reading.expectAs_reads (.token (.punctuation .closeParen)) (by rintro ⟨⟩) closingOffers
      rw [Task.Reads, Reading.expression, current_eq]
      simp only [List.head?_cons, Token.kind, registered, Reading.atom, Reading.expect, open_eq,
        expression_eq, close_eq]
      exact (induction sighted middleOffers).since _
  | @stop left power tokens stops =>
      obtain ⟨ahead, looked, current_eq, aheadOffers⟩ := Reading.current_reads offers sighted
      rw [Task.Reads, Reading.climb, current_eq]
      split
      · rename_i failed
        cases failed
      · rename_i sign behind used found_eq
        obtain ⟨head_eq, rfl, -⟩ := Outcome.done.inj found_eq
        split
        · exact ⟨ahead, _, rfl, aheadOffers⟩
        · rename_i own form registered
          rw [head_eq, Grammar.continues, registered] at stops
          rw [if_neg (by simpa using stops)]
          exact ⟨ahead, _, rfl, aheadOffers⟩
      · rename_i found_eq
        obtain ⟨-, rfl, -⟩ := Outcome.done.inj found_eq
        exact ⟨ahead, _, rfl, aheadOffers⟩
  | @binary sign own left power behind right middle tree rest registered binds _ others operand
      induction =>
      obtain ⟨ahead, looked, current_eq, aheadOffers⟩ :=
        Reading.current_reads offers (following.sighted_cons _ _)
      obtain ⟨operandStart, passed, advance_eq, operandStartOffers⟩ :=
        Reading.advance_reads (.kind .operator) aheadOffers
      obtain ⟨operandEnd, read, expression_eq, operandEndOffers⟩ :=
        operand (sighted.of_suffix others.suffix) operandStartOffers
      rw [Task.Reads, Reading.climb, current_eq]
      simp only [List.head?_cons, registered, if_pos binds, Reading.operation, advance_eq,
        expression_eq]
      exact (induction sighted operandEndOffers).since _
  | @assignment own name power behind value middle tree rest registered binds _ others operand
      induction =>
      obtain ⟨ahead, looked, current_eq, aheadOffers⟩ :=
        Reading.current_reads offers (following.sighted_cons _ _)
      obtain ⟨operandStart, passed, expect_eq, operandStartOffers⟩ :=
        Reading.expectAs_reads (.token (.operator .assign)) (by rintro ⟨⟩) aheadOffers
      obtain ⟨operandEnd, read, expression_eq, operandEndOffers⟩ :=
        operand (sighted.of_suffix others.suffix) operandStartOffers
      rw [Task.Reads, Reading.climb, current_eq]
      simp only [List.head?_cons, registered, if_pos binds, Reading.operation, Reading.expect,
        expect_eq, expression_eq]
      exact (induction sighted operandEndOffers).since _

end Luso
