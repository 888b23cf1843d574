import Luso.Proofs.Syntax.Flattening
import Luso.Proofs.Token.Seam
import Mathlib

/-!
# One program behind another

A program whose last statement is ended by a terminator is over where its text is over.  So a text
behind it and a line feed is read as if it stood on its own: its statements come behind those of the
program, and its errors are the same, only further down.
-/

namespace Luso

/-! ## Terminators -/

/-- No terminator belongs to an expression. -/
theorem Derives.terminator_not_mem {phrase : Phrase} {tokens : List Token} {tree : Expression}
    (derivation : Derives phrase tokens tree) : .punctuation .terminator ∉ tokens := by
  induction derivation with
  | ofSum _ induction | ofTerm _ induction | ofAtom _ induction => exact induction
  | targetName | integer | real | name => simp
  | targetGroup _ induction | group _ induction => simp [induction]
  | assignment _ _ left right | sum _ _ _ left right | product _ _ _ left right =>
      simp [left, right]

theorem DerivesStatement.terminator_not_mem {tokens : List Token} {statement : Statement}
    (derivation : DerivesStatement tokens statement) : .punctuation .terminator ∉ tokens := by
  cases derivation with
  | bare => simp
  | initialised _ _ value | print value | expression value => simp [value.terminator_not_mem]

/-! ## Behind a program -/

section Results

variable {α : Type} {least : Nat} {start : TokenStream}

@[simp]
theorem Outcome.result_since {total : Nat} {earlier : TokenStream} (outcome : Outcome α least start)
    (used : start.size + total ≤ earlier.size + least) :
    (outcome.since used).result = outcome.result := by
  cases outcome <;> rfl

@[simp]
theorem Outcome.result_map {β : Type} (outcome : Outcome α least start) (change : α → β) :
    (outcome.map change).result = outcome.result.map change := by
  cases outcome <;> rfl

end Results

/-- In front of anything, the tokens of a completed program are read as this program, and then the
reading goes on as if it started there. -/
theorem DerivesProgram.result_eq {tokens : List Token} {program : Program}
    (derivation : DerivesProgram tokens program)
    (completed : tokens = [] ∨ tokens.getLast? = some (.punctuation .terminator))
    {stream : TokenStream} {following : Feed} (offers : stream.Offers tokens following) :
    ∃ behind : TokenStream, behind.feed = following ∧
      (Reading.program .standard stream).result =
        (Reading.program .standard behind).result.map (program ++ ·) := by
  induction derivation generalizing stream with
  | nil =>
      refine ⟨stream, offers.feed_of_nil, ?_⟩
      cases (Reading.program .standard stream).result <;> rfl
  | last statement _ =>
      -- The last token belongs to the statement.
      rcases completed with rfl | ends
      · obtain ⟨first, others, nothing⟩ := statement.exists_first
        cases nothing
      · exact absurd (List.mem_of_getLast? ends) statement.terminator_not_mem
  | @cons front rest statement others derived _ induction =>
      have restCompleted : rest = [] ∨ rest.getLast? = some (.punctuation .terminator) := by
        cases rest with
        | nil => exact .inl rfl
        | cons => simpa using completed
      obtain ⟨middle, used, middleOffers, program_eq⟩ := derived.program_eq offers
      obtain ⟨behind, feed_eq, result_eq⟩ := induction restCompleted middleOffers
      refine ⟨behind, feed_eq, ?_⟩
      rw [program_eq, Outcome.result_since, Outcome.result_map, result_eq]
      cases (Reading.program .standard behind).result <;> rfl

/-! ## Further down -/

/-- The same error some lines further down. -/
def SyntaxError.below (lines : Nat) : SyntaxError → SyntaxError
  | .unexpectedToken expected found place => .unexpectedToken expected found (place.below lines)
  | .unexpectedEnd expected place => .unexpectedEnd expected (place.below lines)
  | .invalidAssignee place => .invalidAssignee (place.below lines)

/-- The same error some lines further down. -/
def ParseError.below (lines : Nat) : ParseError → ParseError
  | .lexical error => .lexical (error.below lines)
  | .syntactic error => .syntactic (error.below lines)

theorem Feed.alike_below (feed : Feed) (lines : Nat) : feed.Alike (feed.below lines) := by
  constructor
  · simp [tokens, below]
  · cases ending_eq : feed.ending with
    | finished place => exact .inl ⟨place, _, rfl, congrArg (Ending.below lines) ending_eq⟩
    | broken error => exact .inr ⟨error, _, rfl, congrArg (Ending.below lines) ending_eq⟩

theorem Feed.placed_below {feed : Feed} {lines index : Nat} {token : Token}
    {place place' : Position} (here : feed.placed[index]? = some (token, place))
    (there : (feed.below lines).placed[index]? = some (token, place')) :
    place' = place.below lines := by
  simpa [below, here, eq_comm] using there

/-- The errors that correspond to those of a feed, in the same feed further down. -/
theorem ParseError.Correspond.eq_below {feed : Feed} {lines : Nat} {error error' : ParseError}
    (correspond : Correspond feed (feed.below lines) error error') :
    error' = error.below lines := by
  cases correspond with
  | lexical ending ending' =>
      rw [Feed.below, ending] at ending'
      cases ending'
      rfl
  | unexpectedToken here there =>
      rw [Feed.placed_below here there]
      rfl
  | unexpectedEnd ending ending' =>
      rw [Feed.below, ending] at ending'
      cases ending'
      rfl
  | invalidAssignee here there =>
      rw [Feed.placed_below here there]
      rfl

/-- Further down, a program is read as the same one, or refused with the same error. -/
theorem Reading.program_result_below {stream stream' : TokenStream} {lines : Nat}
    (grammar : Grammar) (feed_eq : stream'.feed = stream.feed.below lines) :
    (program grammar stream').result =
      (program grammar stream).result.mapError (·.below lines) := by
  have twin := program_twin (stream.feed.alike_below lines) grammar stream stream'
    ⟨0, rfl, feed_eq⟩
  refine twin.elim (fun correspond => ?_) fun _ _ => rfl
  rw [correspond.eq_below]
  rfl

/-! ## Source texts -/

/-- Behind a text that can be split and a line feed, a text is split as on its own, and its errors are
further down by the lines in front of it.  If the first text is a program that is over, by a terminator
or because it has no token, then the same holds of reading. -/
theorem parse_append {source : String} {tokens : List Token} (split : tokenize source = .ok tokens)
    (behind : String) :
    (tokenize (source ++ "\n" ++ behind) =
      match tokenize behind with
      | .ok others => .ok (tokens ++ others)
      | .error error => .error (error.below (linesOf source))) ∧
    ∀ program, parse source = .ok program →
      tokens = [] ∨ tokens.getLast? = some (.punctuation .terminator) →
      parse (source ++ "\n" ++ behind) =
        match parse behind with
        | .ok others => .ok (program ++ others)
        | .error error => .error (error.below (linesOf source)) := by
  have feed_split := split
  rw [tokenize_eq_result_feedOf, Feed.result_eq_ok_iff] at feed_split
  obtain ⟨tokens_eq, finish, finished⟩ := feed_split
  have joined := feedOf_append_lineFeed finished behind
  constructor
  · rw [tokenize_eq_result_feedOf, tokenize_eq_result_feedOf, joined]
    simp only [Feed.result, Feed.precede, Feed.below, Feed.tokens]
    cases (feedOf behind).ending with
    | finished place => simp [Ending.below, ← tokens_eq, Feed.tokens]
    | broken error => rfl
  · intro program parsed completed
    obtain ⟨tokens', split', derivation⟩ := derives_of_parse parsed
    obtain rfl := Except.ok.inj (split'.symm.trans split)
    obtain ⟨stream, feed_eq, result_eq⟩ := derivation.result_eq completed ⟨_, tokens_eq, joined⟩
    rw [parse, parse, result_eq, Reading.program_result_below .standard feed_eq]
    cases (Reading.program .standard (TokenStream.ofSource behind)).result <;> rfl

/-- The line feed behind a text closes a comment at its end, and everything behind it is on the third
line. -/
theorem parse_append_openComment :
    parse ("1!\n# dois" ++ "\n" ++ "2") = .ok [.expression (.integer 1), .expression (.integer 2)] ∧
    parse ("1!\n# dois" ++ "\n" ++ " )") =
      .error (.syntactic (.unexpectedToken .atom (.punctuation .closeParen)
        { line := 3, column := 1 })) ∧
    tokenize ("1!\n# dois" ++ "\n" ++ "2@") =
      .error (.unrecognisedCharacter '@' { line := 3, column := 1 }) := by
  obtain ⟨split, behind, paren, sign, lines⟩ :
      tokenize "1!\n# dois" = .ok [.integer 1, .punctuation .terminator] ∧
      parse "2" = .ok [.expression (.integer 2)] ∧
      parse " )" = .error (.syntactic (.unexpectedToken .atom (.punctuation .closeParen)
        { line := 1, column := 1 })) ∧
      tokenize "2@" = .error (.unrecognisedCharacter '@' { line := 1, column := 1 }) ∧
      linesOf "1!\n# dois" = 2 := by
    refine ⟨?_, ?_, ?_, ?_, rfl⟩ <;> cbv
  have one := Derives.expression_of_atom (.integer 1)
  have parsed := parse_of_derives split (.cons (.expression one) .nil)
  refine ⟨?_, ?_, ?_⟩
  · rw [(parse_append split "2").2 _ parsed (.inr rfl), behind]
    rfl
  · rw [(parse_append split " )").2 _ parsed (.inr rfl), paren, lines]
    rfl
  · rw [(parse_append split "2@").1, sign, lines]
    rfl

end Luso
