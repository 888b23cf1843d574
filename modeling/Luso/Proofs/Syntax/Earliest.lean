import Luso.Proofs.Syntax.Exactness
import Luso.Proofs.Syntax.Expected
import Luso.Proofs.Token.Splitting

/-!
# Where reading fails

A reading follows the stages of the relaxed grammar: the tokens that it has used up lead to the stage
where it stands.  So an error that names a token stands at the first one with which no program goes on,
and what it calls expected is something with which a program does go on.  If this is a terminator, then
the tokens before the error, followed by one, are a program.
-/

namespace Luso

/-! ## Streams at a stage -/

/-- The feed with more tokens in front. -/
def Feed.prepend (front : List (Token × Position)) (feed : Feed) : Feed :=
  { feed with placed := front ++ feed.placed }

namespace TokenStream

/-- The next token. -/
def front? (stream : TokenStream) : Option Token :=
  stream.feed.tokens.head?

/-- The stream stands in a feed behind tokens that lead to a stage. -/
def StandsAt (whole : Feed) (stage : Stage) (stream : TokenStream) : Prop :=
  ∃ front, whole = stream.feed.prepend front ∧ Stage.start.run (front.map Prod.fst) = some stage

/-- The stream has looked at what comes next and knows its place. -/
def Faces (stream : TokenStream) : Option Token → Prop
  | some token => ∃ rest : Feed, stream.feed = rest.cons token stream.tokenStart
  | none => stream.feed = { placed := [], ending := .finished stream.tokenStart }

/-- The stream has handed out a token behind tokens that lead to a stage. -/
def HasTaken (whole : Feed) (stage : Stage) (token : Token) (stream : TokenStream) : Prop :=
  ∃ front, whole = stream.feed.prepend (front ++ [(token, stream.tokenStart)]) ∧
    Stage.start.run (front.map Prod.fst) = some stage

/-- The tokens of a feed in front of the stream, with a terminator behind them, derive a program. -/
def Completable (whole : Feed) (stream : TokenStream) : Prop :=
  ∃ front program, whole.tokens = front ++ stream.feed.tokens ∧
    DerivesProgram (front ++ [.punctuation .terminator]) program

/-- The tokens of a feed in front of the stream are completed statements. -/
def StartsStatement (whole : Feed) (stream : TokenStream) : Prop :=
  ∃ front, whole.tokens = front ++ stream.feed.tokens ∧
    ∀ {rest others}, DerivesProgram rest others → ∃ program, DerivesProgram (front ++ rest) program

end TokenStream

/-- An error about a token or about the end of a feed: the tokens before it lead to a stage that
rejects it, and the expectation is the one of that stage.  All that is read before any other error is
the beginning of a program, too. -/
inductive ParseError.Justified (whole : Feed) : ParseError → Prop where
  | unexpectedToken {front behind found place} {stage : Stage} :
      whole.placed = front ++ (found, place) :: behind →
      Stage.start.run (front.map Prod.fst) = some stage → stage.step found = none →
      (stage.expected = .token (.punctuation .terminator) →
        ∃ program, DerivesProgram (front.map Prod.fst ++ [.punctuation .terminator]) program) →
      Justified whole (.syntactic (.unexpectedToken stage.expected found place))
  | unexpectedEnd {place} {stage : Stage} :
      whole.ending = .finished place → Stage.start.run whole.tokens = some stage →
      stage.isFinal = false → Justified whole (.syntactic (.unexpectedEnd stage.expected place))
  | invalidAssignee {front behind place} {stage : Stage} :
      whole.placed = front ++ (.operator .assign, place) :: behind →
      Stage.start.run (front.map Prod.fst ++ [.operator .assign]) = some stage →
      Justified whole (.syntactic (.invalidAssignee place))
  | lexical {error} {stage : Stage} :
      whole.ending = .broken error → Stage.start.run whole.tokens = some stage →
      Justified whole (.lexical error)

/-- The outcome is a value and a stream as they should be, or an error that is justified. -/
inductive Outcome.Traces (whole : Feed) {α : Type} (reached : α → TokenStream → Prop)
    {least : Nat} {start : TokenStream} : Outcome α least start → Prop where
  | done {value after used} : reached value after → Traces whole reached (.done value after used)
  | failed {error after} : error.Justified whole → Traces whole reached (.failed error after)

namespace Outcome.Traces

variable {whole : Feed} {α : Type} {reached : α → TokenStream → Prop} {least : Nat}
  {start : TokenStream} {outcome : Outcome α least start}

theorem since {total : Nat} {earlier : TokenStream} (traces : outcome.Traces whole reached)
    (used : start.size + total ≤ earlier.size + least) :
    (outcome.since used).Traces whole reached := by
  cases traces with
  | failed justified => exact .failed justified
  | done reached => exact .done reached

/-- What else is known of a value and a stream may be added. -/
theorem also {known : α → TokenStream → Prop} (traces : outcome.Traces whole reached)
    (others : ∀ {value after used}, outcome = .done value after used → known value after) :
    outcome.Traces whole fun value after => reached value after ∧ known value after := by
  cases traces with
  | failed justified => exact .failed justified
  | done reached => exact .done ⟨reached, others rfl⟩

/-- What is done next with an outcome is right if it is right with a justified error and with a value
and a stream as they should be. -/
@[elab_as_elim]
theorem elim {motive : Outcome α least start → Prop} (traces : outcome.Traces whole reached)
    (failed : ∀ {error} {after : TokenStream}, error.Justified whole →
      motive (.failed error after))
    (done : ∀ {value} {after : TokenStream} {used}, reached value after →
      motive (.done value after used)) :
    motive outcome := by
  cases traces with
  | failed justified => exact failed justified
  | done reached => exact done reached

end Outcome.Traces

namespace TokenStream

variable {whole : Feed} {stage next : Stage} {stream ahead : TokenStream} {token : Token}
  {expected : Expectation}

theorem Faces.front?_eq {found : Option Token} (faces : stream.Faces found) :
    stream.front? = found := by
  cases found with
  | none => rw [front?, faces]; rfl
  | some token =>
      obtain ⟨rest, feed_eq⟩ := faces
      rw [front?, feed_eq]
      rfl

theorem StandsAt.of_feed_eq (stands : stream.StandsAt whole stage)
    (ahead_eq : ahead.feed = stream.feed) : ahead.StandsAt whole stage := by
  obtain ⟨front, whole_eq, reached⟩ := stands
  exact ⟨front, by rw [ahead_eq, whole_eq], reached⟩

theorem Completable.of_feed_eq (completable : stream.Completable whole)
    (ahead_eq : ahead.feed = stream.feed) : ahead.Completable whole := by
  rwa [Completable, ahead_eq]

/-- If a stage rejects what comes next, the error that says so is justified. -/
theorem StandsAt.unexpectedToken (stands : stream.StandsAt whole stage)
    (faces : stream.Faces (some token)) (expected_eq : stage.expected = expected)
    (rejects : stage.step token = none)
    (completable : expected = .token (.punctuation .terminator) → stream.Completable whole) :
    (Reading.unexpectedToken stream expected token).Justified whole := by
  obtain ⟨front, rfl, reached⟩ := stands
  obtain ⟨rest, feed_eq⟩ := faces
  rw [← expected_eq] at completable ⊢
  refine .unexpectedToken (by rw [feed_eq]; rfl) reached rejects fun terminator => ?_
  obtain ⟨front', program, tokens_eq, derivation⟩ := completable terminator
  rw [Feed.tokens, Feed.prepend, List.map_append] at tokens_eq
  obtain rfl := List.append_cancel_right tokens_eq
  exact ⟨program, derivation⟩

theorem StandsAt.unexpectedEnd (stands : stream.StandsAt whole stage)
    (faces : stream.Faces none) (expected_eq : stage.expected = expected)
    (unfinished : stage.isFinal = false) :
    (Reading.unexpectedEnd stream expected).Justified whole := by
  obtain ⟨front, rfl, reached⟩ := stands
  have feed_eq : stream.feed = { placed := [], ending := .finished stream.tokenStart } := faces
  rw [← expected_eq, feed_eq]
  refine .unexpectedEnd rfl ?_ unfinished
  simpa [Feed.tokens, Feed.prepend] using reached

theorem StartsStatement.of_feed_eq (starts : stream.StartsStatement whole)
    (ahead_eq : ahead.feed = stream.feed) : ahead.StartsStatement whole := by
  rwa [StartsStatement, ahead_eq]

section Statements

variable {front rest : List Token} {statement : Statement} {ending : Ending}

/-- Behind a statement a terminator is missing. -/
theorem StartsStatement.completable (starts : stream.StartsStatement whole)
    (derivation : DerivesStatement front statement) (tokens_eq : stream.feed.tokens = front ++ rest)
    (offers : ahead.Offers rest { placed := [], ending }) : ahead.Completable whole := by
  obtain ⟨before, whole_eq, behind⟩ := starts
  obtain ⟨program, derived⟩ := behind (.cons derivation .nil)
  refine ⟨before ++ front, program, ?_, by simpa using derived⟩
  rw [whole_eq, tokens_eq, offers.feed_tokens, List.append_assoc]

/-- Behind a statement and its terminator the next one starts. -/
theorem StartsStatement.passTerminator (starts : stream.StartsStatement whole)
    (derivation : DerivesStatement front statement)
    (tokens_eq : stream.feed.tokens = front ++ .punctuation .terminator :: rest)
    (offers : ahead.Offers rest { placed := [], ending }) : ahead.StartsStatement whole := by
  obtain ⟨before, whole_eq, behind⟩ := starts
  refine ⟨before ++ front ++ [.punctuation .terminator], ?_, fun others => ?_⟩
  · simp [whole_eq, tokens_eq, offers.feed_tokens]
  · obtain ⟨program, derived⟩ := behind (.cons derivation others)
    exact ⟨program, by simpa using derived⟩

end Statements

theorem HasTaken.standsAt (taken : stream.HasTaken whole stage token)
    (stepped : stage.step token = some next) : stream.StandsAt whole next := by
  obtain ⟨front, whole_eq, reached⟩ := taken
  exact ⟨_, whole_eq, by simp [reached, stepped]⟩

theorem HasTaken.unexpectedToken (taken : stream.HasTaken whole stage token)
    (expected_eq : stage.expected = expected) (rejects : stage.step token = none)
    (noTerminator : expected ≠ .token (.punctuation .terminator)) :
    (Reading.unexpectedToken stream expected token).Justified whole := by
  obtain ⟨front, rfl, reached⟩ := taken
  rw [← expected_eq] at noTerminator ⊢
  exact .unexpectedToken (List.append_assoc front [(token, _)] _) reached rejects
    fun terminator => absurd terminator noTerminator

/-- Behind an operand a program may go on with `=`, even if this one is refused later. -/
theorem StandsAt.invalidAssignee {setting : Setting} {depth : Nat}
    (stands : stream.StandsAt whole (.operator setting depth))
    (faces : stream.Faces (some (.operator .assign))) :
    (ParseError.syntactic (.invalidAssignee stream.tokenStart)).Justified whole := by
  obtain ⟨front, rfl, reached⟩ := stands
  obtain ⟨rest, feed_eq⟩ := faces
  exact .invalidAssignee (by rw [feed_eq]; rfl) (by rw [Stage.run_append, reached]; rfl)

/-- If a text cannot be split where the stream stands, the error that says so is justified. -/
theorem StandsAt.lexical {error : LexicalError} (stands : stream.StandsAt whole stage)
    (feed_eq : stream.feed = { placed := [], ending := .broken error }) :
    (ParseError.lexical error).Justified whole := by
  obtain ⟨front, rfl, reached⟩ := stands
  have all : Stage.start.run (stream.feed.prepend front).tokens = some stage := by
    simpa [feed_eq, Feed.tokens, Feed.prepend] using reached
  exact .lexical (by rw [feed_eq]; rfl) all

end TokenStream

namespace Reading

variable {whole : Feed} {stage next : Stage} {stream : TokenStream} {token wanted : Token}

/-! ## Single tokens -/

theorem current_traces (stands : stream.StandsAt whole stage) :
    (current stream).Traces whole fun found ahead =>
      found = stream.front? ∧ ahead.feed = stream.feed ∧ ahead.Faces found := by
  rcases stream.feed.eq_ending_or_cons with
    ⟨place, feed_eq⟩ | ⟨error, feed_eq⟩ | ⟨token, place, rest, feed_eq⟩
  · obtain ⟨ahead, used, current_eq, ahead_eq, rfl⟩ := current_of_feed_finished feed_eq
    have faces : ahead.Faces none := ahead_eq.trans feed_eq
    rw [current_eq]
    exact .done ⟨by rw [TokenStream.front?, feed_eq]; rfl, ahead_eq, faces⟩
  · obtain ⟨after, current_eq⟩ := current_of_feed_broken feed_eq
    rw [current_eq]
    exact .failed (stands.lexical feed_eq)
  · obtain ⟨ahead, used, current_eq, ahead_eq, rfl⟩ := current_of_feed_cons feed_eq
    have faces : ahead.Faces (some token) := ⟨rest, ahead_eq.trans feed_eq⟩
    rw [current_eq]
    exact .done ⟨by rw [TokenStream.front?, feed_eq]; rfl, ahead_eq, faces⟩

theorem advance_traces (expected : Expectation) (stands : stream.StandsAt whole stage)
    (ends : stream.front? = none → stage.expected = expected ∧ stage.isFinal = false) :
    (advance stream expected).Traces whole fun token after =>
      stream.front? = some token ∧ after.HasTaken whole stage token := by
  rcases stream.feed.eq_ending_or_cons with
    ⟨place, feed_eq⟩ | ⟨error, feed_eq⟩ | ⟨token, place, rest, feed_eq⟩
  · obtain ⟨after, advance_eq, rfl⟩ := advance_of_feed_finished expected feed_eq
    obtain ⟨rfl, unfinished⟩ := ends (by rw [TokenStream.front?, feed_eq]; rfl)
    obtain ⟨front, rfl, reached⟩ := stands
    rw [advance_eq, feed_eq]
    refine .failed (.unexpectedEnd rfl ?_ unfinished)
    simpa [Feed.tokens, Feed.prepend] using reached
  · obtain ⟨after, advance_eq⟩ := advance_of_feed_broken expected feed_eq
    rw [advance_eq]
    exact .failed (stands.lexical feed_eq)
  · obtain ⟨after, used, advance_eq, after_eq, rfl⟩ := advance_of_feed_cons expected feed_eq
    obtain ⟨front, rfl, reached⟩ := stands
    rw [advance_eq]
    refine .done ⟨by rw [TokenStream.front?, feed_eq]; rfl, front, ?_, reached⟩
    simp [feed_eq, after_eq, Feed.prepend, Feed.cons]

theorem expectAs_traces (expected : Expectation) (stands : stream.StandsAt whole stage)
    (notDecimal : wanted.kind ≠ .decimal)
    (met : stream.front? = some wanted → stage.step wanted = some next)
    (other : stream.front? ≠ some wanted →
      stage.expected = expected ∧ stage.Rejects stream.front?)
    (completable : expected = .token (.punctuation .terminator) → stream.Completable whole) :
    (expectAs stream wanted expected).Traces whole fun _ after => after.StandsAt whole next := by
  rw [expectAs]
  refine (current_traces stands).elim .failed fun {found ahead _} looked => ?_
  obtain ⟨found_eq, feed_eq, faces⟩ := looked
  have stands := stands.of_feed_eq feed_eq
  rw [← found_eq] at other
  cases found with
  | none =>
      obtain ⟨expected_eq, unfinished⟩ := other (by rintro ⟨⟩)
      exact .failed (stands.unexpectedEnd faces expected_eq unfinished)
  | some found =>
      simp only [Token.equals_eq_decide notDecimal, decide_eq_true_eq]
      split
      · rename_i same
        obtain rfl := same
        have front_eq := faces.front?_eq
        refine Outcome.Traces.since ?_ _
        refine (advance_traces expected stands (by rw [front_eq]; rintro ⟨⟩)).elim .failed
          fun {taken after _} handed => ?_
        obtain ⟨taken_eq, hasTaken⟩ := handed
        obtain rfl := Option.some.inj (front_eq.symm.trans taken_eq)
        exact .done (hasTaken.standsAt (met found_eq.symm))
      · rename_i different
        obtain ⟨expected_eq, rejects⟩ := other (by rintro ⟨⟩; exact different rfl)
        exact .failed (stands.unexpectedToken faces expected_eq rejects fun terminator =>
          (completable terminator).of_feed_eq feed_eq)

theorem expect_traces (stands : stream.StandsAt whole stage) (notDecimal : wanted.kind ≠ .decimal)
    (met : stream.front? = some wanted → stage.step wanted = some next)
    (other : stream.front? ≠ some wanted →
      stage.expected = .token wanted ∧ stage.Rejects stream.front?)
    (completable : wanted = .punctuation .terminator → stream.Completable whole) :
    (expect stream wanted).Traces whole fun _ after => after.StandsAt whole next :=
  expectAs_traces _ stands notDecimal met other fun expected_eq =>
    completable (Expectation.token.inj expected_eq)

variable {setting : Setting} {depth : Nat}

/-- A parenthesis is closed behind an expression that no operator continues. -/
theorem close_traces (stands : stream.StandsAt whole (.operator setting depth))
    (expected_eq : (Stage.operator setting depth).expected = .token (.punctuation .closeParen))
    (closed : Stage.behindClose setting depth = some next)
    (ends : Grammar.standard.continues .lowest stream.front? = false) :
    (expect stream (.punctuation .closeParen)).Traces whole fun _ after =>
      after.StandsAt whole next := by
  refine expect_traces stands (by rintro ⟨⟩) (fun _ => closed) (fun other => ⟨expected_eq, ?_⟩)
    (by rintro ⟨⟩)
  refine Stage.rejects_of_operator expected_eq ends other fun _ => ?_
  rcases setting with _ | _ <;> rcases depth with _ | depth <;> first | rfl | cases closed

theorem isCurrent_traces (notDecimal : wanted.kind ≠ .decimal)
    (stands : stream.StandsAt whole stage) :
    (isCurrent stream wanted).Traces whole fun met ahead =>
      met = decide (stream.front? = some wanted) ∧ ahead.front? = stream.front? ∧
        ahead.StandsAt whole stage := by
  rw [isCurrent]
  refine (current_traces stands).elim .failed fun {found _ _} looked => ?_
  obtain ⟨found_eq, feed_eq, faces⟩ := looked
  refine .done ⟨?_, faces.front?_eq.trans found_eq, stands.of_feed_eq feed_eq⟩
  rw [← found_eq]
  cases found with
  | none => rfl
  | some token => simp [Token.equals_eq_decide notDecimal]

/-! ## Expressions -/

theorem primary_traces (stands : stream.StandsAt whole stage) (front_eq : stream.front? = some token)
    (takes : stage.TakesOperand setting depth (some token))
    (registered : Grammar.standard.atom token.kind = some .primary) :
    (primary stream).Traces whole fun _ after =>
      after.StandsAt whole (.operator setting depth) := by
  have stepped := takes.2.2 token rfl
  rw [primary]
  refine (advance_traces .atom stands (by rw [front_eq]; rintro ⟨⟩)).elim .failed
    fun {taken after _} handed => ?_
  obtain ⟨taken_eq, hasTaken⟩ := handed
  obtain rfl := Option.some.inj (front_eq.symm.trans taken_eq)
  cases token with
  | integer | decimal | identifier => exact .done (hasTaken.standsAt stepped)
  | _ => cases registered

mutual

theorem expression_traces (stream : TokenStream) (power : BindingPower) {setting : Setting}
    {depth : Nat} {stage : Stage}
    (stands : stream.StandsAt whole stage)
    (takes : stage.TakesOperand setting depth stream.front?) :
    (expression .standard stream power).Traces whole fun _ after =>
      after.StandsAt whole (.operator setting depth) ∧
        Grammar.standard.continues power after.front? = false := by
  rw [expression]
  refine (current_traces stands).elim .failed fun {found ahead _} looked => ?_
  obtain ⟨found_eq, feed_eq, faces⟩ := looked
  have stands := stands.of_feed_eq feed_eq
  rw [← found_eq] at takes
  cases found with
  | none => exact .failed (stands.unexpectedEnd faces takes.1 (takes.2.1 rfl))
  | some token =>
      dsimp only
      split
      · rename_i unregistered
        have rejects : stage.step token = none := by
          rw [takes.2.2 token rfl]
          cases token with
          | keyword | operator => rfl
          | _ => cases unregistered
        exact .failed (stands.unexpectedToken faces takes.1 rejects (by rintro ⟨⟩))
      · rename_i form registered
        refine (atom_traces ahead stands faces.front?_eq takes registered).elim .failed
          fun {left after _} stands => ?_
        exact (climb_traces after left power stands).since _
termination_by 2 * stream.size + 1

theorem climb_traces (stream : TokenStream) (left : Expression) (power : BindingPower)
    {setting : Setting} {depth : Nat}
    (stands : stream.StandsAt whole (.operator setting depth)) :
    (climb .standard stream left power).Traces whole fun _ after =>
      after.StandsAt whole (.operator setting depth) ∧
        Grammar.standard.continues power after.front? = false := by
  rw [climb]
  refine (current_traces stands).elim .failed fun {found ahead _} looked => ?_
  obtain ⟨_, feed_eq, faces⟩ := looked
  have stands := stands.of_feed_eq feed_eq
  have front_eq := faces.front?_eq
  rcases found with _ | (_ | _ | _ | _ | sign | _)
  case some.operator =>
    dsimp only
    split
    · rename_i unregistered
      refine .done ⟨stands, ?_⟩
      rw [front_eq, Grammar.continues, unregistered]
      rfl
    · rename_i own form registered
      split
      · refine (operation_traces ahead form left own stands faces registered).elim .failed
          fun {whole' after _} stands => ?_
        exact (climb_traces after whole' power stands).since _
      · rename_i loose
        refine .done ⟨stands, ?_⟩
        rw [front_eq, Grammar.continues, registered]
        simpa using loose
  all_goals exact .done ⟨stands, by rw [front_eq]; rfl⟩
termination_by 2 * stream.size + 1

theorem atom_traces (stream : TokenStream) {setting : Setting} {depth : Nat} {stage : Stage}
    {form : AtomForm} {token : Token}
    (stands : stream.StandsAt whole stage) (front_eq : stream.front? = some token)
    (takes : stage.TakesOperand setting depth (some token))
    (registered : Grammar.standard.atom token.kind = some form) :
    (atom .standard stream form).Traces whole fun _ after =>
      after.StandsAt whole (.operator setting depth) := by
  have stepped := takes.2.2 token rfl
  cases form with
  | primary =>
      rw [atom]
      exact primary_traces stands front_eq takes registered
  | group =>
      rw [atom]
      have opening : (expectAs stream (.punctuation .openParen) .atom).Traces whole fun _ after =>
          after.StandsAt whole (.operand setting (depth + 1)) := by
        -- Nothing is known about other tokens than the one that comes next.
        rw [← front_eq] at takes
        refine expectAs_traces .atom stands (by rintro ⟨⟩) (fun met => takes.2.2 _ met)
          (fun other => ⟨takes.1, ?_⟩) (by rintro ⟨⟩)
        rw [front_eq] at other ⊢
        rcases token with _ | _ | _ | _ | _ | (_ | _ | _)
        case punctuation.openParen => exact absurd rfl other
        case punctuation.closeParen | punctuation.terminator => exact stepped
        all_goals cases registered
      refine opening.elim .failed fun {_ inside _} stands => ?_
      dsimp only
      refine (expression_traces inside .lowest stands Stage.takesOperand_operand).elim .failed
        fun read => ?_
      obtain ⟨stands, ends⟩ := read
      dsimp only
      exact (close_traces stands (Stage.expected_operator_succ _ _) rfl ends).elim .failed
        fun stands => .done stands
termination_by 2 * stream.size

theorem operation_traces (stream : TokenStream) (form : OperatorForm) (left : Expression)
    (power : BindingPower) {setting : Setting} {depth : Nat} {sign : Operator}
    (stands : stream.StandsAt whole (.operator setting depth))
    (faces : stream.Faces (some (.operator sign)))
    (registered : Grammar.standard.operator sign = some (power, form)) :
    (operation .standard stream form left power).Traces whole fun _ after =>
      after.StandsAt whole (.operator setting depth) := by
  have front_eq := faces.front?_eq
  cases form with
  | binary =>
      rw [operation]
      refine (advance_traces _ stands (by rw [front_eq]; rintro ⟨⟩)).elim .failed
        fun {taken behind _} handed => ?_
      obtain ⟨taken_eq, hasTaken⟩ := handed
      obtain rfl := Option.some.inj (front_eq.symm.trans taken_eq)
      cases sign with
      | arithmetic sign =>
          dsimp only
          exact (expression_traces behind power (hasTaken.standsAt rfl)
            Stage.takesOperand_operand).elim .failed fun read => .done read.1
      | assign => cases registered
  | assignment =>
      obtain rfl : sign = .assign := by
        rcases sign with (_ | _ | _ | _) | _ <;> first | rfl | cases registered
      have misplaced := stands.invalidAssignee faces
      rw [operation]
      refine (expect_traces stands (by rintro ⟨⟩) (fun _ => rfl) (absurd front_eq)
        (by rintro ⟨⟩)).elim .failed fun {_ behind _} stands => ?_
      dsimp only
      refine (expression_traces behind power stands Stage.takesOperand_operand).elim .failed
        fun read => ?_
      obtain ⟨stands, _⟩ := read
      cases left with
      | identifier name => exact .done stands
      | _ => exact .failed misplaced
termination_by 2 * stream.size

end

/-! ## Statements and programs -/

theorem declaration_traces {type : DataType} (stands : stream.StandsAt whole .start)
    (front_eq : stream.front? = some (.keyword (.declare type))) :
    (declaration .standard stream).Traces whole fun _ after =>
      ∃ stage : Stage, after.StandsAt whole stage ∧ stage.EndsStatement after.front? := by
  rw [declaration]
  refine (advance_traces _ stands (by rw [front_eq]; rintro ⟨⟩)).elim .failed
    fun {word _ _} handed => ?_
  obtain ⟨word_eq, hasTaken⟩ := handed
  obtain rfl := Option.some.inj (front_eq.symm.trans word_eq)
  have stands := hasTaken.standsAt rfl
  dsimp only
  refine (advance_traces _ stands fun _ => ⟨rfl, rfl⟩).elim .failed
    fun {name _ _} handed => ?_
  obtain ⟨_, hasTaken⟩ := handed
  cases name with
  | identifier name =>
      have stands := hasTaken.standsAt rfl
      dsimp only
      refine (isCurrent_traces (by rintro ⟨⟩) stands).elim .failed
        fun {met _ _} looked => ?_
      obtain ⟨met_eq, same, stands⟩ := looked
      cases met with
      | true =>
          refine .done ⟨_, stands, rfl, ?_⟩
          rw [same, of_decide_eq_true met_eq.symm]
          rintro _ ⟨⟩ other
          exact absurd rfl other
      | false =>
          have noTerminator := of_decide_eq_false met_eq.symm
          rw [← same] at noTerminator
          dsimp only
          refine (expect_traces stands (by rintro ⟨⟩) (fun _ => rfl)
            (fun other => ⟨rfl, Stage.rejects_named other noTerminator⟩)
            (by rintro ⟨⟩)).elim .failed fun stands => ?_
          dsimp only
          refine (expression_traces _ _ stands Stage.takesOperand_operand).elim .failed
            fun read => ?_
          obtain ⟨stands, ends⟩ := read
          exact .done ⟨_, stands, Stage.endsStatement_operator ends⟩
  | _ => exact .failed (hasTaken.unexpectedToken rfl rfl (by rintro ⟨⟩))

theorem printing_traces (stands : stream.StandsAt whole .start)
    (front_eq : stream.front? = some (.keyword .print)) :
    (printing .standard stream).Traces whole fun _ after =>
      ∃ stage : Stage, after.StandsAt whole stage ∧ stage.EndsStatement after.front? := by
  rw [printing]
  refine (expect_traces stands (by rintro ⟨⟩) (fun _ => rfl) (absurd front_eq)
    (by rintro ⟨⟩)).elim .failed fun stands => ?_
  dsimp only
  refine (expect_traces stands (by rintro ⟨⟩) (fun _ => rfl)
    (fun other => ⟨rfl, Stage.rejects_printing other⟩) (by rintro ⟨⟩)).elim .failed
    fun stands => ?_
  dsimp only
  refine (expression_traces _ _ stands Stage.takesOperand_operand).elim .failed
    fun read => ?_
  obtain ⟨stands, ends⟩ := read
  dsimp only
  exact (close_traces stands rfl rfl ends).elim .failed
    fun stands => .done ⟨_, stands, Stage.endsStatement_closed⟩

theorem statement_traces (stands : stream.StandsAt whole .start)
    (front_eq : stream.front? = some token) :
    (statement .standard stream).Traces whole fun _ after =>
      ∃ stage : Stage, after.StandsAt whole stage ∧ stage.EndsStatement after.front? := by
  rw [statement]
  refine (current_traces stands).elim .failed fun {found ahead _} looked => ?_
  obtain ⟨found_eq, feed_eq, faces⟩ := looked
  have stands := stands.of_feed_eq feed_eq
  obtain rfl := found_eq.trans front_eq
  have front_eq := faces.front?_eq
  dsimp only
  split
  · rename_i form announced
    rcases token with (type | _) | _ | _ | _ | _ | _
    case keyword.declare =>
      cases announced
      exact (declaration_traces stands front_eq).since _
    case keyword.print =>
      cases announced
      exact (printing_traces stands front_eq).since _
    all_goals cases announced
  · rename_i unannounced
    have noKeyword : token.kind ≠ .keyword := by
      rcases token with (type | _) | _ | _ | _ | _ | _
      case keyword.declare | keyword.print => cases unannounced
      all_goals rintro ⟨⟩
    have takes : Stage.start.TakesOperand .tail 0 ahead.front? :=
      front_eq ▸ Stage.takesOperand_start noKeyword
    refine Outcome.Traces.since ?_ _
    exact (expression_traces ahead .lowest stands takes).elim .failed
      fun read => .done ⟨_, read.1, Stage.endsStatement_operator read.2⟩

theorem program_traces (stream : TokenStream) (stands : stream.StandsAt whole .start)
    (starts : stream.StartsStatement whole) :
    (program .standard stream).Traces whole fun _ _ => True := by
  rw [program]
  refine (current_traces stands).elim .failed fun {found ahead _} looked => ?_
  obtain ⟨_, feed_eq, faces⟩ := looked
  have stands := stands.of_feed_eq feed_eq
  have starts := starts.of_feed_eq feed_eq
  cases found with
  | none => exact .done trivial
  | some token =>
      dsimp only
      refine ((statement_traces stands faces.front?_eq).also
        (derives_of_statement (.all ahead))).elim .failed fun {_ behind _} read => ?_
      obtain ⟨⟨stage, stands, ends⟩, front, rest, tokens_eq, offers, derivation, -⟩ := read
      dsimp only
      refine (current_traces stands).elim .failed
        fun {found next _} looked => ?_
      obtain ⟨found_eq, feed_eq, faces⟩ := looked
      have stands := stands.of_feed_eq feed_eq
      have offers := offers.of_feed_eq feed_eq
      rw [← found_eq] at ends
      -- A bare declaration at the end does not get here: a terminator follows it.
      cases found with
      | none => exact .done trivial
      | some token =>
          have completable := starts.completable derivation tokens_eq offers
          dsimp only
          refine ((expect_traces stands (by rintro ⟨⟩) (fun _ => ends.1) (fun other => ?_)
            fun _ => completable).also (of_expectAs_done (by rintro ⟨⟩) offers)).elim .failed
            fun {_ rest _} read => ?_
          · rw [faces.front?_eq] at other ⊢
            exact ends.2 token rfl (by simpa using other)
          · obtain ⟨stands, others, rfl, restOffers⟩ := read
            have starts := starts.passTerminator derivation tokens_eq restOffers
            dsimp only
            exact (program_traces rest stands starts).elim .failed fun _ => .done trivial
termination_by stream.size

/-- What is wrong with a program is justified in the feed that it is read from. -/
theorem program_justified {stream : TokenStream} {error : ParseError}
    (failed : (program .standard stream).result = .error error) : error.Justified stream.feed := by
  have traces := program_traces stream ⟨[], rfl, rfl⟩ ⟨[], rfl, fun derivation => ⟨_, derivation⟩⟩
  generalize program .standard stream = outcome at traces failed
  cases traces with
  | done => cases failed
  | failed justified =>
      cases failed
      exact justified

end Reading

/-! ## Source texts -/

theorem ParseError.justified_of_parse {source : String} {error : ParseError}
    (failed : parse source = .error error) : error.Justified (feedOf source) :=
  Reading.program_justified failed

/-- Syntax errors are found as early as possible.  The tokens in front of an unexpected one are the
beginning of a program of the relaxed grammar, and with that token they are not; where the text ends
too early, all of its tokens are such a beginning, but no program.  In both cases a program can go on
with everything that is called expected. -/
theorem parse_fails_earliest (source : String) :
    (∀ expected found position,
      parse source = .error (.syntactic (.unexpectedToken expected found position)) →
      ∃ before behind, (feedOf source).placed = before ++ (found, position) :: behind ∧
        Viable (before.map Prod.fst) ∧ ¬ Viable (before.map Prod.fst ++ [found]) ∧
        expected ∈ [.atom, .kind .identifier, .token (.punctuation .openParen),
          .token (.punctuation .closeParen), .token (.operator .assign),
          .token (.punctuation .terminator)] ∧
        ∀ token, expected.Describes token → Viable (before.map Prod.fst ++ [token])) ∧
    ∀ expected position,
      parse source = .error (.syntactic (.unexpectedEnd expected position)) →
      ∃ tokens, tokenize source = .ok tokens ∧
        (∃ rest, rest ≠ [] ∧ RelaxedProgram (tokens ++ rest)) ∧ ¬ RelaxedProgram tokens ∧
        (∀ program, ¬ DerivesProgram tokens program) ∧
        position = Position.start.advanceOver source.toList ∧
        expected ∈ [.atom, .kind .identifier, .token (.punctuation .openParen),
          .token (.punctuation .closeParen), .token (.operator .assign)] ∧
        ∀ token, expected.Describes token → Viable (tokens ++ [token]) := by
  refine ⟨fun expected found position failed => ?_, fun expected position failed => ?_⟩
  · cases ParseError.justified_of_parse failed with
    | @unexpectedToken before behind _ _ stage placed_eq reached rejects _ =>
        refine ⟨before, behind, placed_eq, viable_iff.mpr ⟨stage, reached⟩, ?_, stage.expected_mem,
          fun token => viable_append_of_describes reached⟩
        rw [viable_append_iff reached, rejects]
        rintro ⟨next, ⟨⟩⟩
  · cases ParseError.justified_of_parse failed with
    | @unexpectedEnd _ stage finished reached unfinished =>
        have noProgram : ¬ RelaxedProgram (feedOf source).tokens := by
          rw [relaxedProgram_iff]
          rintro ⟨last, reachedLast, ends⟩
          cases reached.symm.trans reachedLast
          cases unfinished.symm.trans ends
        obtain ⟨rest, program⟩ := viable_iff.mpr ⟨stage, reached⟩
        refine ⟨(feedOf source).tokens, ?_, ⟨rest, ?_, program⟩, noProgram,
          fun _ derivation => noProgram derivation.relaxed, (feedOf_reports source).finish_eq finished,
          stage.expected_mem_of_unfinished unfinished,
          fun token => viable_append_of_describes reached⟩
        · rw [tokenize_eq_result_feedOf, Feed.result_eq_ok_iff]
          exact ⟨rfl, position, finished⟩
        · rintro rfl
          exact noProgram (by simpa using program)

/-- Nothing stands between two parentheses, and behind a single one. -/
theorem parse_emptyGroup :
    (∃ before behind, (feedOf "()").placed =
        before ++ (.punctuation .closeParen, { line := 1, column := 1 }) :: behind ∧
      Viable (before.map Prod.fst) ∧
      ¬ Viable (before.map Prod.fst ++ [.punctuation .closeParen])) ∧
    ∃ tokens, tokenize "(" = .ok tokens ∧ ¬ RelaxedProgram tokens ∧
      ∀ token, Expectation.atom.Describes token → Viable (tokens ++ [token]) := by
  have failed :
      parse "()" = .error (.syntactic (.unexpectedToken .atom (.punctuation .closeParen)
        { line := 1, column := 1 })) ∧
      parse "(" = .error (.syntactic (.unexpectedEnd .atom { line := 1, column := 1 })) := by
    constructor <;> cbv
  obtain ⟨before, behind, placed_eq, viable, refused, -⟩ :=
    (parse_fails_earliest "()").1 _ _ _ failed.1
  obtain ⟨tokens, split, -, noProgram, -, -, -, continued⟩ :=
    (parse_fails_earliest "(").2 _ _ failed.2
  exact ⟨⟨before, behind, placed_eq, viable, refused⟩, tokens, split, noProgram, continued⟩

end Luso
