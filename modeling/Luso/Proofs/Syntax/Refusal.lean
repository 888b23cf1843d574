import Luso.Proofs.Syntax.Earliest
import Luso.Proofs.Syntax.Misassignment
import Luso.Proofs.Syntax.Yield

/-!
# Which assignment is refused

What an `=` assigns to is looked at when its value has been read.  So of all assignments to something
that is no name, the first one is refused that holds no other one in its value: those further left wait
for their values, and this one is in all of them.
-/

namespace Luso

theorem Outcome.Takes.of_done {α : Type} {fits : α → List Token → Prop} {least : Nat}
    {start after : TokenStream} {outcome : Outcome α least start} {value : α}
    {used : after.size + least ≤ start.size} (takes : outcome.Takes fits)
    (done : outcome = .done value after used) :
    ∃ taken, start.Offers taken after.feed ∧ fits value taken := by
  subst done
  cases takes with
  | done offers fit => exact ⟨_, offers, fit⟩

/-- An error about an assignment stands at the one that is refused. -/
inductive ParseError.NamesRefused (whole : Feed) : ParseError → Prop where
  | lexical {error} : NamesRefused whole (.lexical error)
  | unexpectedToken {expected found place} :
      NamesRefused whole (.syntactic (.unexpectedToken expected found place))
  | unexpectedEnd {expected place} :
      NamesRefused whole (.syntactic (.unexpectedEnd expected place))
  | invalidAssignee {before behind place} :
      whole.placed = before ++ (.operator .assign, place) :: behind →
      IsRefused (before.map Prod.fst) (behind.map Prod.fst) →
      NamesRefused whole (.syntactic (.invalidAssignee place))

/-- The outcome is a value and a stream as they should be, or an error that names what is refused. -/
inductive Outcome.Refuses (whole : Feed) {α : Type} (reached : α → TokenStream → Prop)
    {least : Nat} {start : TokenStream} : Outcome α least start → Prop where
  | done {value after used} : reached value after → Refuses whole reached (.done value after used)
  | failed {error after} : error.NamesRefused whole → Refuses whole reached (.failed error after)

namespace Outcome.Refuses

variable {whole : Feed} {α : Type} {reached : α → TokenStream → Prop} {least : Nat}
  {start : TokenStream} {outcome : Outcome α least start}

theorem since {total : Nat} {earlier : TokenStream} (refuses : outcome.Refuses whole reached)
    (used : start.size + total ≤ earlier.size + least) :
    (outcome.since used).Refuses whole reached := by
  cases refuses with
  | failed names => exact .failed names
  | done reached => exact .done reached

/-- A value and a stream are also as is known otherwise. -/
theorem knowing {known : α → TokenStream → Prop} (refuses : outcome.Refuses whole reached)
    (others : ∀ {value after used}, outcome = .done value after used → known value after) :
    outcome.Refuses whole known := by
  cases refuses with
  | failed names => exact .failed names
  | done reached => exact .done (others rfl)

/-- What is done next with an outcome is right if it is right with an error that names what is refused
and with a value and a stream as they should be. -/
@[elab_as_elim]
theorem elim {motive : Outcome α least start → Prop} (refuses : outcome.Refuses whole reached)
    (failed : ∀ {error} {after : TokenStream}, error.NamesRefused whole →
      motive (.failed error after))
    (done : ∀ {value} {after : TokenStream} {used}, reached value after →
      motive (.done value after used)) :
    motive outcome := by
  cases refuses with
  | failed names => exact failed names
  | done reached => exact done reached

end Outcome.Refuses

namespace Reading

variable {whole : Feed} {start stream : TokenStream} {read : List Token}

/-! ## Single tokens -/

theorem current_refuses (whole : Feed) (stream : TokenStream) :
    (current stream).Refuses whole fun found ahead =>
      ahead.feed = stream.feed ∧ ahead.Faces found := by
  rcases stream.feed.eq_ending_or_cons with
    ⟨place, feed_eq⟩ | ⟨error, feed_eq⟩ | ⟨token, place, rest, feed_eq⟩
  · obtain ⟨ahead, used, current_eq, ahead_eq, rfl⟩ := current_of_feed_finished feed_eq
    have faces : ahead.Faces none := ahead_eq.trans feed_eq
    rw [current_eq]
    exact .done ⟨ahead_eq, faces⟩
  · obtain ⟨after, current_eq⟩ := current_of_feed_broken feed_eq
    rw [current_eq]
    exact .failed .lexical
  · obtain ⟨ahead, used, current_eq, ahead_eq, rfl⟩ := current_of_feed_cons feed_eq
    have faces : ahead.Faces (some token) := ⟨rest, ahead_eq.trans feed_eq⟩
    rw [current_eq]
    exact .done ⟨ahead_eq, faces⟩

theorem advance_refuses (whole : Feed) (stream : TokenStream) (expected : Expectation) :
    (advance stream expected).Refuses whole fun token after =>
      stream.front? = some token ∧ stream.Offers [token] after.feed := by
  rcases stream.feed.eq_ending_or_cons with
    ⟨place, feed_eq⟩ | ⟨error, feed_eq⟩ | ⟨token, place, rest, feed_eq⟩
  · obtain ⟨after, advance_eq, -⟩ := advance_of_feed_finished expected feed_eq
    rw [advance_eq]
    exact .failed .unexpectedEnd
  · obtain ⟨after, advance_eq⟩ := advance_of_feed_broken expected feed_eq
    rw [advance_eq]
    exact .failed .lexical
  · obtain ⟨after, used, advance_eq, rfl, -⟩ := advance_of_feed_cons expected feed_eq
    rw [advance_eq]
    exact .done ⟨by rw [TokenStream.front?, feed_eq]; rfl, [(token, place)], rfl, feed_eq⟩

theorem expectAs_refuses (whole : Feed) (stream : TokenStream) {wanted : Token}
    (expected : Expectation) (notDecimal : wanted.kind ≠ .decimal) :
    (expectAs stream wanted expected).Refuses whole fun _ after =>
      stream.Offers [wanted] after.feed := by
  have fails : (expectAs stream wanted expected).Refuses whole fun _ _ => True := by
    rw [expectAs]
    refine (current_refuses whole stream).elim .failed fun {found ahead _} _ => ?_
    cases found with
    | none => exact .failed .unexpectedEnd
    | some found =>
        dsimp only
        split
        · exact ((advance_refuses whole ahead expected).knowing fun _ => trivial).since _
        · exact .failed .unexpectedToken
  refine fails.knowing fun done => ?_
  obtain ⟨_, offers, rfl⟩ := (expectAs_takes stream wanted expected notDecimal).of_done done
  exact offers

theorem expect_refuses (whole : Feed) (stream : TokenStream) {wanted : Token}
    (notDecimal : wanted.kind ≠ .decimal) :
    (expect stream wanted).Refuses whole fun _ after => stream.Offers [wanted] after.feed :=
  expectAs_refuses whole stream _ notDecimal

theorem primary_refuses (whole : Feed) (stream : TokenStream) :
    (primary stream).Refuses whole fun _ _ => True := by
  rw [primary]
  refine (advance_refuses whole stream .atom).elim .failed fun {token _ _} _ => ?_
  cases token with
  | integer | decimal | identifier => exact .done trivial
  | _ => exact .failed .unexpectedToken

/-! ## Expressions -/

/-- Every operator continues an assignment. -/
theorem noOperator_of_ends {tokens : List Token}
    (ends : Grammar.standard.continues .assignment tokens.head? = false) : NoOperator tokens := by
  intro sign head_eq
  rw [head_eq] at ends
  cases sign with
  | arithmetic sign => cases sign <;> cases ends
  | assign => cases ends

/-- Behind the tokens read before, an expression was read at a power. -/
def ExpressionRead (start : TokenStream) (read : List Token) (power : BindingPower)
    (value : Expression) (after : TokenStream) : Prop :=
  ∃ taken, start.Offers (read ++ taken) after.feed ∧ Derives power.phrase taken value ∧
    Grammar.standard.continues power after.front? = false

theorem expressionRead_of_done {power : BindingPower} {value : Expression} {after : TokenStream}
    {used : after.size + 1 ≤ stream.size} (offers : start.Offers read stream.feed)
    (done : expression .standard stream power = .done value after used) :
    ExpressionRead start read power value after := by
  obtain ⟨rest, restOffers, climbs⟩ := climbs_of_expression .standard stream power (.all stream) done
  obtain ⟨taken, takenOffers, -⟩ := (expression_takes .standard stream power).of_done done
  obtain ⟨front, tokens_eq, derivation⟩ := derives_of_climbs climbs
  rw [(takenOffers.trans restOffers).feed_tokens] at tokens_eq
  obtain rfl := List.append_cancel_right tokens_eq
  refine ⟨taken, offers.trans takenOffers, derivation, ?_⟩
  rw [TokenStream.front?, restOffers.feed_tokens]
  exact climbs.stopped

/-- Behind the tokens read before, the left side of the next operator was read. -/
structure LeftRead (start : TokenStream) (read operand : List Token) (left : Expression)
    (stream : TokenStream) : Prop where
  /-- The stream stands behind the operand. -/
  offers : start.Offers (read ++ operand) stream.feed
  /-- The operand keeps its tokens in the tree. -/
  kept : left.flatten = operand.filter Token.isKept
  /-- Whatever assigns to something that is no name still waits for its value. -/
  allOpen : AllOpen (read ++ operand)
  /-- In front of an operator, the operand is a sum. -/
  sum : ∀ {sign}, stream.front? = some (.operator sign) → Relaxed .sum operand

namespace LeftRead

variable {operand : List Token} {left value : Expression} {ahead after : TokenStream}
  {sign : Arithmetic}

theorem of_feed_eq (leftRead : LeftRead start read operand left stream)
    (feed_eq : ahead.feed = stream.feed) : LeftRead start read operand left ahead where
  offers := feed_eq ▸ leftRead.offers
  kept := leftRead.kept
  allOpen := leftRead.allOpen
  sum front_eq := leftRead.sum (by rwa [TokenStream.front?, ← feed_eq])

theorem of_atom_done {form : AtomForm} {token : Token} {used : after.size + 1 ≤ stream.size}
    (offers : start.Offers read stream.feed) (awaits : AllAwait read)
    (front_eq : stream.front? = some token)
    (registered : Grammar.standard.atom token.kind = some form)
    (done : atom .standard stream form = .done left after used) :
    ∃ operand, LeftRead start read operand left after := by
  obtain ⟨rest, restOffers, climbs⟩ :=
    climbs_of_atom .standard stream form (.all stream) front_eq.symm registered done
  obtain ⟨taken, takenOffers, -⟩ := (atom_takes .standard stream form).of_done done
  have alone := climbs (.stop (standard_continues_multiplicative rest.head?))
  obtain ⟨operand, tokens_eq, derivation⟩ := derives_of_climbs alone
  rw [(takenOffers.trans restOffers).feed_tokens] at tokens_eq
  obtain rfl := List.append_cancel_right tokens_eq
  have derivation : Derives .atom taken left := derivation
  exact ⟨taken, offers.trans takenOffers, derivation.flatten_eq,
    awaits.append_derived derivation (by rintro ⟨⟩), fun _ => .ofTerm (.ofAtom derivation.relaxed)⟩

/-- An arithmetic operator and its right side make a longer left side. -/
theorem binary (leftRead : LeftRead start read operand left stream)
    (front_eq : stream.front? = some (.operator (.arithmetic sign)))
    (right : ExpressionRead start (read ++ operand ++ [.operator (.arithmetic sign)]) sign.power
      value after) :
    ∃ operand', LeftRead start read operand' (.binary sign left value) after := by
  obtain ⟨taken, offers, derivation, -⟩ := right
  have awaits := leftRead.allOpen.append_operator (.arithmetic sign)
  have sum := leftRead.sum front_eq
  refine ⟨operand ++ .operator (.arithmetic sign) :: taken, by simpa using offers, ?_, ?_, ?_⟩
  · simp [Expression.flatten, leftRead.kept, derivation.flatten_eq, List.filter_cons, Token.isKept]
  · have noExpression : sign.power.phrase ≠ .expression := by
      cases sign <;> rintro ⟨⟩
    simpa using awaits.append_derived derivation (absurd · noExpression)
  · intro _ _
    cases additive : sign.isAdditive with
    | true =>
        rw [Arithmetic.power, if_pos additive] at derivation
        exact .sum additive sum derivation.relaxed
    | false =>
        rw [Arithmetic.power, if_neg (by simp [additive])] at derivation
        exact sum.sum_extend sign derivation.relaxed

/-- Behind the value of a name there is no other operator. -/
theorem assignment {name : String} (leftRead : LeftRead start read operand (.identifier name) stream)
    (right : ExpressionRead start (read ++ operand ++ [.operator .assign]) .assignment value after) :
    ∃ operand', LeftRead start read operand' (.assignment name value) after := by
  obtain ⟨taken, offers, derivation, ends⟩ := right
  have awaits := leftRead.allOpen.append_operator .assign
  have kept : operand.filter Token.isKept = [.identifier name] := leftRead.kept.symm
  refine ⟨operand ++ .operator .assign :: taken, by simpa using offers, ?_, ?_, ?_⟩
  · simp [Expression.flatten, kept, derivation.flatten_eq, List.filter_cons, Token.isKept]
  · simpa using awaits.append_derived derivation fun _ => endsAtBoundary_concat.mpr (.inl rfl)
  · exact fun {sign} front_eq => (noOperator_of_ends ends sign front_eq).elim

/-- If something else than a name was read, then the `=` behind it is refused. -/
theorem refused (leftRead : LeftRead start read operand left stream)
    (faces : stream.Faces (some (.operator .assign))) (boundary : EndsAtBoundary read)
    (noName : ∀ name, left ≠ .identifier name)
    (right : ExpressionRead start (read ++ operand ++ [.operator .assign]) .assignment value after) :
    (ParseError.syntactic (.invalidAssignee stream.tokenStart)).NamesRefused start.feed := by
  obtain ⟨taken, offers, derivation, ends⟩ := right
  have sum := leftRead.sum faces.front?_eq
  obtain ⟨before, before_eq, feed_eq⟩ := leftRead.offers
  obtain ⟨rest, stream_eq⟩ := faces
  have placed_eq : start.feed.placed =
      before ++ (.operator .assign, stream.tokenStart) :: rest.placed := by
    rw [feed_eq, stream_eq]
    rfl
  have rest_eq : rest.placed.map Prod.fst = taken ++ after.feed.tokens := by
    have tokens_eq := (offers.trans (.all after)).feed_tokens
    rw [Feed.tokens, placed_eq, List.map_append, before_eq] at tokens_eq
    simpa using tokens_eq
  refine .invalidAssignee placed_eq ?_
  rw [before_eq, rest_eq]
  exact isRefused_of_value boundary sum leftRead.kept noName leftRead.allOpen derivation
    (noOperator_of_ends ends)

end LeftRead

mutual

theorem expression_refuses (stream : TokenStream) (power : BindingPower) {read : List Token}
    (offers : start.Offers read stream.feed) (awaits : AllAwait read)
    (boundary : power.rank ≤ BindingPower.assignment.rank → EndsAtBoundary read) :
    (expression .standard stream power).Refuses start.feed (ExpressionRead start read power) := by
  suffices fails : (expression .standard stream power).Refuses start.feed fun _ _ => True from
    fails.knowing (expressionRead_of_done offers)
  rw [expression]
  refine (current_refuses start.feed stream).elim .failed fun {found ahead _} looked => ?_
  obtain ⟨feed_eq, faces⟩ := looked
  rw [← feed_eq] at offers
  cases found with
  | none => exact .failed .unexpectedEnd
  | some token =>
      dsimp only
      split
      · exact .failed .unexpectedToken
      · rename_i form registered
        have front_eq := faces.front?_eq
        refine ((atom_refuses ahead form offers awaits).knowing
          (LeftRead.of_atom_done offers awaits front_eq registered)).elim .failed
          fun {left after _} leftRead => ?_
        obtain ⟨operand, leftRead⟩ := leftRead
        exact (climb_refuses after left power leftRead boundary).since _
termination_by 2 * stream.size + 1

theorem climb_refuses (stream : TokenStream) (left : Expression) (power : BindingPower)
    {read operand : List Token} (leftRead : LeftRead start read operand left stream)
    (boundary : power.rank ≤ BindingPower.assignment.rank → EndsAtBoundary read) :
    (climb .standard stream left power).Refuses start.feed fun _ _ => True := by
  rw [climb]
  refine (current_refuses start.feed stream).elim .failed fun {found ahead _} looked => ?_
  obtain ⟨feed_eq, faces⟩ := looked
  have leftRead := leftRead.of_feed_eq feed_eq
  rcases found with _ | (_ | _ | _ | _ | sign | _)
  case some.operator =>
    dsimp only
    split
    · exact .done trivial
    · rename_i own form registered
      split
      · rename_i binds
        have starts : sign = .assign → EndsAtBoundary read := by
          rintro rfl
          obtain ⟨rfl, -⟩ := Prod.mk.inj (Option.some.inj registered)
          exact boundary (of_decide_eq_true binds)
        refine (operation_refuses ahead form left own leftRead faces registered starts).elim .failed
          fun {whole after _} leftRead => ?_
        obtain ⟨operand, leftRead⟩ := leftRead
        exact (climb_refuses after whole power leftRead boundary).since _
      · exact .done trivial
  all_goals exact .done trivial
termination_by 2 * stream.size + 1

theorem atom_refuses (stream : TokenStream) (form : AtomForm) {read : List Token}
    (offers : start.Offers read stream.feed) (awaits : AllAwait read) :
    (atom .standard stream form).Refuses start.feed fun _ _ => True := by
  cases form with
  | primary =>
      rw [atom]
      exact primary_refuses start.feed stream
  | group =>
      rw [atom]
      refine (expectAs_refuses start.feed stream .atom (by rintro ⟨⟩)).elim .failed
        fun {_ inside _} opening => ?_
      dsimp only
      refine (expression_refuses inside .lowest (offers.trans opening) awaits.append_openParen
        fun _ => endsAtBoundary_concat.mpr (.inr (.inl rfl))).elim .failed
        fun {value behind _} _ => ?_
      dsimp only
      exact (expect_refuses start.feed behind (by rintro ⟨⟩)).elim .failed fun _ => .done trivial
termination_by 2 * stream.size

theorem operation_refuses (stream : TokenStream) (form : OperatorForm) (left : Expression)
    (power : BindingPower) {sign : Operator} {read operand : List Token}
    (leftRead : LeftRead start read operand left stream)
    (faces : stream.Faces (some (.operator sign)))
    (registered : Grammar.standard.operator sign = some (power, form))
    (boundary : sign = .assign → EndsAtBoundary read) :
    (operation .standard stream form left power).Refuses start.feed fun whole after =>
      ∃ operand', LeftRead start read operand' whole after := by
  have front_eq := faces.front?_eq
  cases form with
  | binary =>
      rw [operation]
      refine (advance_refuses start.feed stream _).elim .failed fun {taken behind _} passed => ?_
      obtain ⟨taken_eq, passed⟩ := passed
      obtain rfl := Option.some.inj (front_eq.symm.trans taken_eq)
      cases sign with
      | assign => cases registered
      | arithmetic sign =>
          rw [standard_operator_arithmetic] at registered
          obtain ⟨rfl, -⟩ := Prod.mk.inj (Option.some.inj registered)
          have tight : ¬ sign.power.rank ≤ BindingPower.assignment.rank := by
            cases sign <;> decide
          dsimp only
          exact (expression_refuses behind sign.power (leftRead.offers.trans passed)
            (leftRead.allOpen.append_operator _) (absurd · tight)).elim .failed
            fun right => .done (leftRead.binary front_eq right)
  | assignment =>
      obtain rfl : sign = .assign := by
        rcases sign with (_ | _ | _ | _) | _ <;> first | rfl | cases registered
      obtain ⟨rfl, -⟩ := Prod.mk.inj (Option.some.inj registered)
      rw [operation]
      refine (expect_refuses start.feed stream (by rintro ⟨⟩)).elim .failed
        fun {_ behind _} passed => ?_
      dsimp only
      refine (expression_refuses behind .assignment (leftRead.offers.trans passed)
        (leftRead.allOpen.append_operator .assign)
        fun _ => endsAtBoundary_concat.mpr (.inl rfl)).elim .failed fun {value after _} right => ?_
      cases left with
      | identifier name => exact .done (leftRead.assignment right)
      | _ => exact .failed (leftRead.refused faces (boundary rfl) (by rintro _ ⟨⟩) right)
termination_by 2 * stream.size

end

/-! ## Statements and programs -/

theorem isCurrent_refuses (whole : Feed) (stream : TokenStream) (wanted : Token) :
    (isCurrent stream wanted).Refuses whole fun _ ahead => ahead.feed = stream.feed := by
  rw [isCurrent]
  exact (current_refuses whole stream).elim .failed fun looked => .done looked.1

theorem declaration_refuses (offers : start.Offers read stream.feed) (fair : Fair read) :
    (declaration .standard stream).Refuses start.feed fun _ _ => True := by
  rw [declaration]
  refine (advance_refuses start.feed stream _).elim .failed fun {word behindType _} typeRead => ?_
  rcases word with (type | _) | _ | _ | _ | _ | _
  case keyword.declare =>
    dsimp only
    refine (advance_refuses start.feed behindType _).elim .failed
      fun {name behindName _} nameRead => ?_
    cases name with
    | identifier name =>
        dsimp only
        refine (isCurrent_refuses start.feed behindName _).elim .failed
          fun {met ahead _} feed_eq => ?_
        cases met with
        | true => exact .done trivial
        | false =>
            dsimp only
            refine (expect_refuses start.feed ahead (by rintro ⟨⟩)).elim .failed
              fun {_ behindSign _} passed => ?_
            have offers := (offers.trans typeRead.2).trans (feed_eq ▸ nameRead.2)
            dsimp only
            exact (expression_refuses behindSign .lowest (offers.trans passed)
              (fair.append_declaration type name).allAwait
              fun _ => endsAtBoundary_concat.mpr (.inl rfl)).elim .failed fun _ => .done trivial
    | _ => exact .failed .unexpectedToken
  all_goals exact .failed .unexpectedToken

theorem printing_refuses (offers : start.Offers read stream.feed) (fair : Fair read) :
    (printing .standard stream).Refuses start.feed fun _ _ => True := by
  rw [printing]
  refine (expect_refuses start.feed stream (by rintro ⟨⟩)).elim .failed
    fun {_ behindWord _} wordRead => ?_
  dsimp only
  refine (expect_refuses start.feed behindWord (by rintro ⟨⟩)).elim .failed
    fun {_ inside _} opening => ?_
  dsimp only
  refine (expression_refuses inside .lowest ((offers.trans wordRead).trans opening)
    fair.append_printing.allAwait fun _ => endsAtBoundary_concat.mpr (.inr (.inl rfl))).elim .failed
    fun {argument behind _} _ => ?_
  dsimp only
  exact (expect_refuses start.feed behind (by rintro ⟨⟩)).elim .failed fun _ => .done trivial

/-- Behind the tokens read before, a statement was read. -/
def StatementTaken (start : TokenStream) (read : List Token) (statement : Statement)
    (after : TokenStream) : Prop :=
  ∃ taken, start.Offers (read ++ taken) after.feed ∧ DerivesStatement taken statement

theorem statementTaken_of_done {value : Statement} {after : TokenStream}
    {used : after.size + 1 ≤ stream.size} (offers : start.Offers read stream.feed)
    (done : statement .standard stream = .done value after used) :
    StatementTaken start read value after := by
  obtain ⟨front, rest, tokens_eq, restOffers, derivation, -⟩ :=
    derives_of_statement (.all stream) done
  obtain ⟨taken, takenOffers, -⟩ := (statement_takes .standard stream).of_done done
  rw [(takenOffers.trans restOffers).feed_tokens] at tokens_eq
  obtain rfl := List.append_cancel_right tokens_eq
  exact ⟨taken, offers.trans takenOffers, derivation⟩

theorem statement_refuses (offers : start.Offers read stream.feed) (fair : Fair read)
    (boundary : EndsAtBoundary read) :
    (statement .standard stream).Refuses start.feed (StatementTaken start read) := by
  suffices fails : (statement .standard stream).Refuses start.feed fun _ _ => True from
    fails.knowing (statementTaken_of_done offers)
  rw [statement]
  refine (current_refuses start.feed stream).elim .failed fun {found ahead _} looked => ?_
  obtain ⟨feed_eq, -⟩ := looked
  rw [← feed_eq] at offers
  dsimp only
  split
  · rename_i form _
    cases form with
    | declaration => exact (declaration_refuses offers fair).since _
    | print => exact (printing_refuses offers fair).since _
  · refine Outcome.Refuses.since ?_ _
    exact (expression_refuses ahead .lowest offers fair.allAwait fun _ => boundary).elim .failed
      fun _ => .done trivial

theorem program_refuses (stream : TokenStream) {read : List Token}
    (offers : start.Offers read stream.feed) (fair : Fair read) (boundary : EndsAtBoundary read) :
    (program .standard stream).Refuses start.feed fun _ _ => True := by
  rw [program]
  refine (current_refuses start.feed stream).elim .failed fun {found ahead _} looked => ?_
  obtain ⟨feed_eq, -⟩ := looked
  rw [← feed_eq] at offers
  cases found with
  | none => exact .done trivial
  | some _ =>
      dsimp only
      refine (statement_refuses offers fair boundary).elim .failed fun {first behind _} stated => ?_
      obtain ⟨taken, offers, derivation⟩ := stated
      dsimp only
      refine (current_refuses start.feed behind).elim .failed fun {found next _} looked => ?_
      obtain ⟨feed_eq, -⟩ := looked
      rw [← feed_eq] at offers
      cases found with
      | none => exact .done trivial
      | some _ =>
          dsimp only
          refine (expect_refuses start.feed next (by rintro ⟨⟩)).elim .failed
            fun {_ rest _} passed => ?_
          have ended : Fair (read ++ taken ++ [.punctuation .terminator]) :=
            (derivation.fair fair boundary).append_plain (by simp)
          dsimp only
          exact (program_refuses rest (offers.trans passed) ended
            (endsAtBoundary_concat.mpr (.inr (.inr rfl)))).elim .failed fun _ => .done trivial
termination_by stream.size

end Reading

/-! ## Source texts -/

/-- The assignment that is refused assigns to something that is no name, and it is the first one that
does so and holds no other one in its value.  Every one further left holds it in its value. -/
theorem parse_refuses_innermost (source : String) (position : Position)
    (failed : parse source = .error (.syntactic (.invalidAssignee position))) :
    ∃ before behind, (feedOf source).placed = before ++ (.operator .assign, position) :: behind ∧
      InnermostMisassigned (before.map Prod.fst) (behind.map Prod.fst) ∧
      ∀ front between, before.map Prod.fst = front ++ .operator .assign :: between →
        ¬ InnermostMisassigned front (between ++ .operator .assign :: behind.map Prod.fst) ∧
        (Misassigned front → BeginsExpression (between ++ [.operator .assign])) := by
  have refuses : (Reading.program .standard (TokenStream.ofSource source)).Refuses
      (feedOf source) fun _ _ => True :=
    Reading.program_refuses _ (.refl _) (fun front _ split => by simp at split) endsAtBoundary_nil
  rw [parse] at failed
  generalize Reading.program .standard (TokenStream.ofSource source) = outcome at refuses failed
  cases refuses with
  | done => cases failed
  | failed names =>
      cases failed
      cases names with
      | invalidAssignee placed_eq refused =>
          exact ⟨_, _, placed_eq, refused.toInnermostMisassigned, fun front between before_eq =>
            ⟨refused.leftmost before_eq, refused.enclosed front between before_eq⟩⟩

/-- What is read to a depth that suffices is read. -/
theorem parse_of_programWithin {source : String} {depth : Nat} {result : Except ParseError Program}
    (sufficient : 2 * (TokenStream.ofSource source).size + 2 < depth)
    (read : ((Reading.programWithin .standard depth).run (TokenStream.ofSource source)).map Prod.fst =
      some result) : parse source = result := by
  rw [Reading.programWithin_settles .standard depth _ sufficient] at read
  exact Option.some.inj read

theorem parse_twoAssignments :
    parse "1 = 2 = 3" = .error (.syntactic (.invalidAssignee { line := 1, column := 6 })) := by
  have sufficient : 2 * (TokenStream.ofSource "1 = 2 = 3").size + 2 < 100 := by decide +kernel
  refine parse_of_programWithin sufficient ?_
  cbv

/-- Only the second sign stands at this place. -/
theorem split_twoAssignments {before behind : List (Token × Position)}
    (placed_eq : (feedOf "1 = 2 = 3").placed =
      before ++ (.operator .assign, { line := 1, column := 6 }) :: behind) :
    before.map Prod.fst = [.integer 1, .operator .assign, .integer 2] ∧
      behind.map Prod.fst = [.integer 3] := by
  have all : (feedOf "1 = 2 = 3").placed =
      [(.integer 1, { line := 1, column := 0 }), (.operator .assign, { line := 1, column := 2 }),
        (.integer 2, { line := 1, column := 4 })] ++
        (.operator .assign, { line := 1, column := 6 }) ::
          [(.integer 3, { line := 1, column := 8 })] := by
    cbv
  rw [all] at placed_eq
  rcases append_cons_eq_append_cons_iff.mp placed_eq with
    ⟨middle, front_eq, -⟩ | ⟨rfl, -, rfl⟩ | ⟨middle, -, rest_eq⟩
  · have absent : ((.operator .assign, { line := 1, column := 6 }) : Token × Position) ∉
        before ++ (.operator .assign, { line := 1, column := 6 }) :: middle := by
      rw [← front_eq]
      decide
    simp at absent
  · exact ⟨rfl, rfl⟩
  · have absent : ((.operator .assign, { line := 1, column := 6 }) : Token × Position) ∉
        middle ++ (.operator .assign, { line := 1, column := 6 }) :: behind := by
      rw [← rest_eq]
      decide
    simp at absent

theorem misassigned_number (value : Int32) : Misassigned [.integer value] :=
  misassigned_of_tree endsAtBoundary_nil (.ofTerm (.ofAtom (.integer value)))
    (rfl : (Expression.integer value).flatten = _) (by rintro _ ⟨⟩)

/-- Of two assignments to numbers, the second one is refused, which is in the value of the first one. -/
theorem parse_refuses_innermost_twoAssignments :
    parse "1 = 2 = 3" = .error (.syntactic (.invalidAssignee { line := 1, column := 6 })) ∧
      InnermostMisassigned [.integer 1, .operator .assign, .integer 2] [.integer 3] ∧
      ¬ InnermostMisassigned [.integer 1] [.integer 2, .operator .assign, .integer 3] ∧
      BeginsExpression [.integer 2, .operator .assign] := by
  obtain ⟨before, behind, placed_eq, innermost, further⟩ :=
    parse_refuses_innermost _ _ parse_twoAssignments
  obtain ⟨before_eq, behind_eq⟩ := split_twoAssignments placed_eq
  rw [before_eq, behind_eq] at innermost further
  obtain ⟨notInnermost, inValue⟩ := further [.integer 1] [.integer 2] rfl
  exact ⟨parse_twoAssignments, innermost, notInnermost, inValue (misassigned_number 1)⟩

/-- It is not the first `=` that assigns to something that is no name. -/
theorem parse_spares_leftmost :
    ¬ ∀ source position, parse source = .error (.syntactic (.invalidAssignee position)) →
      ∃ before behind, (feedOf source).placed = before ++ (.operator .assign, position) :: behind ∧
        Misassigned (before.map Prod.fst) ∧
        ∀ front between, before.map Prod.fst = front ++ .operator .assign :: between →
          ¬ Misassigned front := by
  intro leftmost
  obtain ⟨before, behind, placed_eq, -, noneBefore⟩ := leftmost _ _ parse_twoAssignments
  have before_eq := (split_twoAssignments placed_eq).1
  exact noneBefore [.integer 1] [.integer 2] before_eq (misassigned_number 1)

end Luso
