import Luso.Proofs.Diagnostic.Headline
import Luso.Proofs.Syntax.Concatenation
import Luso.Proofs.Token.Insertion

/-!
# The suggestion of a terminator

Where a keyword or a name stands in place of a punctuation mark, the tip asks whether a terminator was
missed.  Put in front of that token, it helps if the mark is a terminator: the text is then read up to
behind the token.  Where a parenthesis is missing, reading stops at the terminator at the latest.
-/

namespace Luso

/-- The tip is that a terminator was missed in front of a token. -/
def Error.SuggestsTerminator (error : Error) : Prop :=
  ∃ token, error.tip? = some ("Unexpected token: `" ++ token ++ "`, did you miss a `!`?")

/-- A text is read as a program, or reading it fails behind this beginning of the text. -/
def ReadsPast (source : String) (front : List Char) : Prop :=
  (∃ program, parse source = .ok program) ∨
    ∃ error place between, parse source = .error error ∧ error.toError.position? = some place ∧
      place = Position.start.advanceOver (front ++ between)

theorem not_readsPast_of_lt {source : String} {error : ParseError} {place : Position}
    {front : List Char} (failed : parse source = .error error) (positioned : error.toError.position? = some place)
    (early : place < Position.start.advanceOver front) : ¬ReadsPast source front := by
  rintro (⟨program, parsed⟩ | ⟨error', place', between, failed', positioned', place_eq⟩)
  · cases failed.symm.trans parsed
  · cases failed.symm.trans failed'
    cases positioned.symm.trans positioned'
    rw [Position.advanceOver_append] at place_eq
    cases between with
    | nil =>
        rw [place_eq] at early
        exact Position.lt_irrefl _ early
    | cons next rest =>
        have later := Position.lt_advanceOver (Position.start.advanceOver front)
          (List.cons_ne_nil next rest)
        rw [← place_eq] at later
        exact Position.lt_irrefl _ (Position.lt_trans early later)

/-! ## Where reading stops -/

/-- The place of what comes behind the last token. -/
def Ending.place : Ending → Position
  | .finished place => place
  | .broken error => error.position

/-- Reading stops at a token that no program goes on with, or at `=`, or behind all tokens; what is in
front of the place is the beginning of a program. -/
inductive Feed.StopsAt (feed : Feed) : Position → Prop where
  | token {front found place behind} {stage : Stage} :
      feed.placed = front ++ (found, place) :: behind →
      Stage.start.run (front.map Prod.fst) = some stage →
      stage.step found = none ∨ found = .operator .assign → StopsAt feed place
  | ending {stage : Stage} :
      Stage.start.run feed.tokens = some stage → StopsAt feed feed.ending.place

theorem ParseError.Justified.exists_stopsAt {feed : Feed} {error : ParseError}
    (justified : error.Justified feed) :
    ∃ place, error.toError.position? = some place ∧ feed.StopsAt place := by
  cases justified with
  | unexpectedToken placed_eq reached rejects _ =>
      exact ⟨_, rfl, .token placed_eq reached (.inl rejects)⟩
  | unexpectedEnd finished reached _ =>
      refine ⟨_, rfl, ?_⟩
      have stops := Feed.StopsAt.ending reached
      rwa [finished] at stops
  | invalidAssignee placed_eq reached =>
      rw [Stage.run_append] at reached
      obtain ⟨stage, front_reached, -⟩ := Option.bind_eq_some_iff.mp reached
      exact ⟨_, rfl, .token placed_eq front_reached (.inr rfl)⟩
  | lexical broken reached =>
      refine ⟨_, rfl, ?_⟩
      have stops := Feed.StopsAt.ending reached
      rwa [broken] at stops

theorem Stage.run_append_cons_of_rejected {stage : Stage} {front : List Token} {rejected : Token}
    (rejects : stage.run (front ++ [rejected]) = none) (rest : List Token) :
    stage.run (front ++ rejected :: rest) = none := by
  rw [← List.singleton_append, ← List.append_assoc, run_append, rejects]
  rfl

theorem Feed.tokens_precede_cons (feed : Feed) (before : List (Token × Position)) (token : Token)
    (place : Position) :
    ((feed.cons token place).precede before).tokens =
      before.map Prod.fst ++ token :: feed.tokens := by
  simp [tokens, precede, cons]

namespace Feed.StopsAt

variable {feed : Feed} {place start : Position} {text : List Char}

/-- Where a text starts with what a statement may start with, reading stops behind it. -/
theorem isPlaceIn_of_cons {first : Token} {firstAt : Position} {stage : Stage}
    (stops : (feed.cons first firstAt).StopsAt place) (reports : feed.Reports start text)
    (stepped : Stage.start.step first = some stage) (noAssign : first ≠ .operator .assign) :
    IsPlaceIn start text place := by
  cases stops with
  | @token front found _ behind _ placed_eq reached refused =>
      cases front with
      | nil =>
          obtain ⟨first_eq, -⟩ := List.cons.inj placed_eq
          cases first_eq
          cases reached
          rcases refused with rejects | assign
          · cases stepped.symm.trans rejects
          · exact absurd assign noAssign
      | cons _ others =>
          obtain ⟨-, behind_eq⟩ := List.cons.inj placed_eq
          exact reports.isPlaceIn_of_token behind_eq
  | ending _ =>
      change IsPlaceIn start text feed.ending.place
      cases ending_eq : feed.ending with
      | finished => exact reports.isPlaceIn_of_finished ending_eq
      | broken => exact reports.isPlaceIn_of_broken ending_eq

/-- Reading does not get past a token that no program goes on with. -/
theorem mem_of_rejected {before : List (Token × Position)} {rejected : Token} {rejectedAt : Position}
    (stops : ((feed.cons rejected rejectedAt).precede before).StopsAt place)
    (rejects : Stage.start.run (before.map Prod.fst ++ [rejected]) = none) :
    place = rejectedAt ∨ ∃ earlier ∈ before, place = earlier.2 := by
  cases stops with
  | @token front found _ behind _ placed_eq reached _ =>
      rcases List.append_eq_append_iff.mp placed_eq with
        ⟨others, front_eq, rest_eq⟩ | ⟨others, before_eq, rest_eq⟩
      · cases others with
        | nil =>
            cases rest_eq
            exact .inl rfl
        | cons next others =>
            -- What is rejected is in front of the place.
            obtain ⟨next_eq, -⟩ := List.cons.inj rest_eq
            rw [front_eq, ← next_eq, List.map_append, List.map_cons,
              Stage.run_append_cons_of_rejected rejects] at reached
            cases reached
      · cases others with
        | nil =>
            cases rest_eq
            exact .inl rfl
        | cons next others =>
            cases rest_eq
            exact .inr ⟨(found, place), by simp [before_eq], rfl⟩
  | ending reached =>
      rw [tokens_precede_cons, Stage.run_append_cons_of_rejected rejects] at reached
      cases reached

end Feed.StopsAt

/-! ## Tips -/

theorem getLast?_toList_append {front behind : String} {last : Char}
    (ends : behind.toList.getLast? = some last) :
    (front ++ behind).toList.getLast? = some last := by
  rw [String.toList_append, List.getLast?_append, ends]
  rfl

/-- The name of what is expected does not end in a question mark. -/
theorem Stage.getLast?_expected (stage : Stage) :
    ∃ last, stage.expected.text.toList.getLast? = some last ∧ last ≠ '?' := by
  have member := stage.expected_mem
  generalize stage.expected = expected at member
  simp only [List.mem_cons, List.not_mem_nil, or_false] at member
  rcases member with rfl | rfl | rfl | rfl | rfl | rfl <;> exact ⟨_, rfl, by decide⟩

/-- The tip comes with an error about a token that may start a statement and stands in place of a
punctuation mark, and with no other one. -/
theorem ParseError.Justified.of_suggestsTerminator {feed : Feed} {error : ParseError}
    (justified : error.Justified feed) (suggests : error.toError.SuggestsTerminator) :
    ∃ expected found place, error = .syntactic (.unexpectedToken expected found place) ∧
      expected.isPunctuation = true ∧ found.startsStatement = true := by
  obtain ⟨token, tip_eq⟩ := suggests
  -- Other tips begin with another word, or they end with what is expected.
  have starts : error.toError.tip?.bind (·.toList.head?) = some 'U' := by
    simp [tip_eq]
  have ends : error.toError.tip?.bind (·.toList.getLast?) = some '?' := by
    rw [tip_eq]
    exact getLast?_toList_append rfl
  cases justified with
  | @unexpectedToken _ _ found place stage _ _ _ _ =>
      refine ⟨_, _, _, rfl, ?_⟩
      change (SyntaxError.unexpectedToken _ _ _).tip.toList.getLast? = _ at ends
      rw [SyntaxError.tip_unexpectedToken] at ends
      split at ends
      · rename_i both
        simpa using both
      · obtain ⟨last, last_eq, noQuestion⟩ := stage.getLast?_expected
        rw [getLast?_toList_append last_eq] at ends
        exact absurd (Option.some.inj ends) noQuestion
  | unexpectedEnd => simp [toError, Error.tip?, SyntaxError.tip_unexpectedEnd] at starts
  | invalidAssignee => simp [toError, Error.tip?, SyntaxError.tip_invalidAssignee] at starts
  | @lexical error =>
      cases error with
      | unrecognisedCharacter => cases starts
      | invalidNumber => simp [toError, Error.tip?, LexicalError.tip?] at starts

/-! ## A terminator in front of a token -/

theorem Token.exists_step_of_startsStatement {token : Token} (starts : token.startsStatement = true) :
    (∃ stage, Stage.start.step token = some stage) ∧ token ≠ .operator .assign := by
  rcases token with (_ | _) | _ | _ | _ | _ | _
  case keyword.declare | keyword.print | identifier => exact ⟨⟨_, rfl⟩, by rintro ⟨⟩⟩
  all_goals cases starts

/-- In place of a mark, a terminator is either what is expected or rejected. -/
theorem Stage.step_terminator_eq_none {stage : Stage} (mark : stage.expected.isPunctuation = true)
    (other : stage.expected ≠ .token (.punctuation .terminator)) :
    stage.step (.punctuation .terminator) = none := by
  rcases stage with _ | _ | _ | _ | _ | ⟨_ | _, _ | depth⟩ | _
  case operator.tail.zero | closed => exact absurd rfl other
  case start | declaring | named | operand => cases mark
  all_goals rfl

namespace Insertion

variable {mark : Punctuation} {text : List Char} {before : List (Token × Position)} {found : Token}
  {here : Position}

/-- The text with the mark. -/
def source (insertion : Insertion mark .start text before found here) : String :=
  String.ofList (insertion.front ++ mark.symbol :: (insertion.lexeme.text ++ insertion.behind))

theorem feedOf_source (insertion : Insertion mark .start text before found here) :
    feedOf insertion.source =
      ((Feed.ofText (here.advance mark.symbol) (insertion.lexeme.text ++ insertion.behind)).cons
        (.punctuation mark) here).precede before := by
  change Feed.ofText .start insertion.source.toList = _
  rw [source, String.toList_ofList, insertion.feed_eq]

/-- If the tokens in front of the found one are a program with a terminator, then reading starts anew
behind this one, and it takes the found token. -/
theorem readsPast {program : Program}
    (insertion : Insertion .terminator .start text before found here)
    (derivation : DerivesProgram (before.map Prod.fst ++ [.punctuation .terminator]) program)
    (starts : found.startsStatement = true) :
    ReadsPast insertion.source (insertion.front ++ '!' :: insertion.lexeme.text) := by
  have offers : (TokenStream.ofSource insertion.source).Offers
      (before.map Prod.fst ++ [.punctuation .terminator])
      (Feed.ofText (here.advance '!') (insertion.lexeme.text ++ insertion.behind)) := by
    refine ⟨before ++ [(.punctuation .terminator, here)], by simp, ?_⟩
    change feedOf insertion.source = _
    rw [insertion.feedOf_source]
    simp [Feed.precede, Feed.cons, Punctuation.symbol]
  obtain ⟨behind, feed_eq, result_eq⟩ := derivation.result_eq (.inr (by simp)) offers
  rw [← parse] at result_eq
  cases outcome : (Reading.program .standard behind).result with
  | ok others =>
      rw [outcome] at result_eq
      exact .inl ⟨_, result_eq⟩
  | error error =>
      rw [outcome] at result_eq
      obtain ⟨⟨stage, stepped⟩, noAssign⟩ := Token.exists_step_of_startsStatement starts
      obtain ⟨place, positioned, stops⟩ := (Reading.program_justified outcome).exists_stopsAt
      rw [feed_eq, (Upfront.ofLexeme insertion.found insertion.stands).feed_eq] at stops
      obtain ⟨between, -, -, place_eq, -⟩ :=
        stops.isPlaceIn_of_cons (TokenStream.feed_reports _ rfl) stepped noAssign
      refine .inr ⟨error, place, between, result_eq, positioned, ?_⟩
      rw [place_eq]
      simp [TokenStream.startingAt, Upfront.ofLexeme, insertion.place_eq, Position.advanceOver_append]

/-- If a terminator is rejected there, reading does not get past it. -/
theorem not_readsPast (insertion : Insertion .terminator .start text before found here)
    (rejects : Stage.start.run (before.map Prod.fst ++ [.punctuation .terminator]) = none) :
    ¬ReadsPast insertion.source (insertion.front ++ ['!']) := by
  cases outcome : parse insertion.source with
  | ok program =>
      obtain ⟨tokens, split, derivation⟩ := derives_of_parse outcome
      obtain ⟨stage, reached, -⟩ := derivation.relaxed.run_start
      rw [tokenize_eq_result_feedOf, Feed.result_eq_ok_iff, insertion.feedOf_source,
        Feed.tokens_precede_cons] at split
      rw [← split.1, Stage.run_append_cons_of_rejected rejects] at reached
      cases reached
  | error error =>
      obtain ⟨place, positioned, stops⟩ := (ParseError.justified_of_parse outcome).exists_stopsAt
      rw [insertion.feedOf_source] at stops
      refine not_readsPast_of_lt outcome positioned ?_
      have behind : here < Position.start.advanceOver (insertion.front ++ ['!']) := by
        rw [Position.advanceOver_append, ← insertion.place_eq]
        exact Position.lt_advanceOver here (List.cons_ne_nil _ _)
      rcases stops.mem_of_rejected rejects with rfl | ⟨token, member, rfl⟩
      · exact behind
      · exact Position.lt_trans (insertion.earlier token member) behind

end Insertion

/-- The tip that a terminator was missed is right exactly if a terminator was expected: with one in
front of the token that was found, the text is read up to behind this token, or it is a program.  If a
parenthesis was expected, the text is not even read up to behind the terminator. -/
theorem readsPast_of_suggestsTerminator {source : String} {error : ParseError}
    (failed : parse source = .error error) (suggests : error.toError.SuggestsTerminator) :
    ∃ expected found place front lexeme behind,
      error = .syntactic (.unexpectedToken expected found place) ∧
      source.toList = front ++ (lexeme ++ behind) ∧ place = Position.start.advanceOver front ∧
      LexemeAt (lexeme ++ behind) lexeme ∧ Classifies lexeme found ∧
      (expected = .token (.punctuation .terminator) →
        ReadsPast (String.ofList (front ++ '!' :: (lexeme ++ behind))) (front ++ '!' :: lexeme)) ∧
      (expected ≠ .token (.punctuation .terminator) →
        ¬ReadsPast (String.ofList (front ++ '!' :: (lexeme ++ behind))) (front ++ ['!'])) := by
  have justified := ParseError.justified_of_parse failed
  obtain ⟨expected, found, place, rfl, mark, starts⟩ := justified.of_suggestsTerminator suggests
  cases justified with
  | @unexpectedToken before _ _ _ stage placed_eq reached _ completes =>
      obtain ⟨insertion⟩ := Feed.exists_insertion .terminator placed_eq
      refine ⟨_, found, place, insertion.front, insertion.lexeme.text, insertion.behind, rfl,
        insertion.text_eq, insertion.place_eq, Lexeme.lexemeAt_of_longest? insertion.found,
        Lexeme.classifies_of_longest? insertion.found insertion.stands, fun terminator => ?_,
        fun other => insertion.not_readsPast ?_⟩
      · obtain ⟨program, derivation⟩ := completes terminator
        exact insertion.readsPast derivation starts
      · simp [reached, Stage.step_terminator_eq_none mark other]

/-- Between two statements the terminator helps, even though the second one is not complete. -/
theorem readsPast_missedTerminator :
    parse "1\na=" = .error (.syntactic (.unexpectedToken (.token (.punctuation .terminator))
      (.identifier "a") { line := 2, column := 0 })) ∧
    (Error.syntactic (.unexpectedToken (.token (.punctuation .terminator)) (.identifier "a")
      { line := 2, column := 0 })).SuggestsTerminator ∧
    ∃ front lexeme behind, "1\na=".toList = front ++ (lexeme ++ behind) ∧
      Position.start.advanceOver front = { line := 2, column := 0 } ∧
      ReadsPast (String.ofList (front ++ '!' :: (lexeme ++ behind))) (front ++ '!' :: lexeme) := by
  have failed : parse "1\na=" =
      .error (.syntactic (.unexpectedToken (.token (.punctuation .terminator)) (.identifier "a")
        { line := 2, column := 0 })) := by
    cbv
  obtain ⟨expected, found, place, front, lexeme, behind, error_eq, text_eq, place_eq, -, -, helps,
    -⟩ := readsPast_of_suggestsTerminator failed ⟨"a", rfl⟩
  cases error_eq
  exact ⟨failed, ⟨"a", rfl⟩, front, lexeme, behind, text_eq, place_eq.symm, helps rfl⟩

/-- Inside a group that is not closed, the terminator is the next thing that is refused. -/
theorem not_readsPast_missedClosing :
    parse "(1 a" = .error (.syntactic (.unexpectedToken (.token (.punctuation .closeParen))
      (.identifier "a") { line := 1, column := 3 })) ∧
    (Error.syntactic (.unexpectedToken (.token (.punctuation .closeParen)) (.identifier "a")
      { line := 1, column := 3 })).SuggestsTerminator ∧
    parse "(1 !a" = .error (.syntactic (.unexpectedToken (.token (.punctuation .closeParen))
      (.punctuation .terminator) { line := 1, column := 3 })) ∧
    ¬ReadsPast "(1 !a" "(1 !".toList := by
  have failed : parse "(1 !a" =
      .error (.syntactic (.unexpectedToken (.token (.punctuation .closeParen))
        (.punctuation .terminator) { line := 1, column := 3 })) := by
    cbv
  refine ⟨by cbv, ⟨"a", rfl⟩, failed, not_readsPast_of_lt failed rfl ?_⟩
  exact .inr ⟨rfl, by decide⟩

end Luso
