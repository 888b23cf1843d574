import Luso.Proofs.Syntax.Streams

/-!
# What is read as a program

A source text that can be split into tokens is read as a program exactly if its tokens derive that
program.
-/

namespace Luso

/-! ## Expressions up to a boundary -/

/-- No operator stands at the front of the tokens. -/
def NoOperator (tokens : List Token) : Prop :=
  ∀ sign, tokens.head? = some (.operator sign) → False

theorem derives_of_expression {stream after : TokenStream} {ending : Ending} {tokens : List Token}
    {value : Expression} {used : after.size + 1 ≤ stream.size}
    (upcoming : stream.Offers tokens { placed := [], ending })
    (done : Reading.expression .standard stream .lowest = .done value after used) :
    ∃ front rest, tokens = front ++ rest ∧ after.Offers rest { placed := [], ending } ∧
      Derives .expression front value := by
  obtain ⟨rest, rest_eq, climbs⟩ :=
    Reading.climbs_of_expression .standard stream .lowest upcoming done
  obtain ⟨front, tokens_eq, derivation⟩ := derives_of_climbs climbs
  exact ⟨front, rest, tokens_eq, rest_eq, derivation⟩

theorem Derives.expression_reads {tokens rest : List Token} {value : Expression}
    (derivation : Derives .expression tokens value) (boundary : NoOperator rest)
    {stream : TokenStream} {following : Feed} (sighted : following.Sighted rest)
    (offers : stream.Offers (tokens ++ rest) following) :
    (Reading.expression .standard stream .lowest).Reads value rest following := by
  have ended (power : BindingPower) : Grammar.standard.continues power rest.head? = false :=
    Grammar.continues_of_no_operator boundary
  exact (derivation.climbs ⟨Nat.zero_le _, ended _⟩ (.stop (ended _))).reads sighted offers

/-! ## Statements -/

/-- A statement derives from the tokens in front of those that the stream still hands out, and a
terminator comes next if it is a bare declaration. -/
def StatementRead (ending : Ending) (tokens : List Token) (statement : Statement)
    (after : TokenStream) : Prop :=
  ∃ front rest, tokens = front ++ rest ∧ after.Offers rest { placed := [], ending } ∧
    DerivesStatement front statement ∧
    (statement.isBare = true → rest.head? = some (.punctuation .terminator))

theorem derives_of_declaration {stream after : TokenStream} {ending : Ending} {tokens : List Token}
    {statement : Statement} {used : after.size + 1 ≤ stream.size}
    (upcoming : stream.Offers tokens { placed := [], ending })
    (done : Reading.declaration .standard stream = .done statement after used) :
    StatementRead ending tokens statement after := by
  rw [Reading.declaration] at done
  split at done
  · cases done
  · rename_i word behindType typeRead type_eq
    obtain ⟨nameTokens, rfl, nameTokens_eq⟩ := Reading.of_advance_done upcoming type_eq
    split at done
    · cases done
    rename_i type declared_eq
    obtain rfl := Token.eq_of_declaredType? declared_eq
    split at done
    · cases done
    · rename_i name behindName nameRead name_eq
      obtain ⟨others, rfl, others_eq⟩ := Reading.of_advance_done nameTokens_eq name_eq
      split at done
      · cases done
      · rename_i isCurrent_eq
        obtain ⟨met, after_eq⟩ := Reading.of_isCurrent_done (by rintro ⟨⟩) others_eq isCurrent_eq
        cases done
        exact ⟨_, others, rfl, after_eq, .bare type name, fun _ => of_decide_eq_true met.symm⟩
      · rename_i ahead looked isCurrent_eq
        obtain ⟨-, ahead_eq⟩ := Reading.of_isCurrent_done (by rintro ⟨⟩) others_eq isCurrent_eq
        split at done
        · cases done
        · rename_i behindSign passed assign_eq
          obtain ⟨valueTokens, rfl, valueTokens_eq⟩ :=
            Reading.of_expectAs_done (by rintro ⟨⟩) ahead_eq assign_eq
          split at done
          · cases done
          · rename_i value behindValue read value_eq
            obtain ⟨front, rest, rfl, rest_eq, derivation⟩ :=
              derives_of_expression valueTokens_eq value_eq
            cases done
            exact ⟨_, rest, rfl, rest_eq, .initialised type name derivation, by rintro ⟨⟩⟩
    · cases done

theorem derives_of_printing {stream after : TokenStream} {ending : Ending} {tokens : List Token}
    {statement : Statement} {used : after.size + 1 ≤ stream.size}
    (upcoming : stream.Offers tokens { placed := [], ending })
    (done : Reading.printing .standard stream = .done statement after used) :
    StatementRead ending tokens statement after := by
  rw [Reading.printing] at done
  split at done
  · cases done
  · rename_i behindWord wordRead word_eq
    obtain ⟨opening, rfl, opening_eq⟩ := Reading.of_expectAs_done (by rintro ⟨⟩) upcoming word_eq
    split at done
    · cases done
    · rename_i inside opened open_eq
      obtain ⟨contents, rfl, contents_eq⟩ :=
        Reading.of_expectAs_done (by rintro ⟨⟩) opening_eq open_eq
      split at done
      · cases done
      · rename_i argument behind read argument_eq
        obtain ⟨front, closing, rfl, closing_eq, derivation⟩ :=
          derives_of_expression contents_eq argument_eq
        split at done
        · cases done
        · rename_i close_eq
          obtain ⟨rest, rfl, rest_eq⟩ := Reading.of_expectAs_done (by rintro ⟨⟩) closing_eq close_eq
          cases done
          exact ⟨_, rest, by simp, rest_eq, .print derivation, by rintro ⟨⟩⟩

theorem derives_of_statement {stream after : TokenStream} {ending : Ending} {tokens : List Token}
    {statement : Statement} {used : after.size + 1 ≤ stream.size}
    (upcoming : stream.Offers tokens { placed := [], ending })
    (done : Reading.statement .standard stream = .done statement after used) :
    StatementRead ending tokens statement after := by
  rw [Reading.statement] at done
  split at done
  · cases done
  · rename_i token ahead looked current_eq
    obtain ⟨-, ahead_eq⟩ := Reading.of_current_done upcoming current_eq
    split at done
    · rename_i form announced
      obtain ⟨last, statement_eq⟩ := Outcome.done_of_since done
      cases form with
      | declaration => exact derives_of_declaration ahead_eq statement_eq
      | print => exact derives_of_printing ahead_eq statement_eq
    · obtain ⟨last, map_eq⟩ := Outcome.done_of_since done
      obtain ⟨value, rfl, value_eq⟩ := Outcome.done_of_map map_eq
      obtain ⟨front, rest, tokens_eq, rest_eq, derivation⟩ :=
        derives_of_expression ahead_eq value_eq
      exact ⟨front, rest, tokens_eq, rest_eq, .expression derivation, by rintro ⟨⟩⟩

section Reads

variable {stream : TokenStream} {tokens rest : List Token} {following : Feed}

theorem bare_declaration_reads {type : DataType} {name : String}
    (terminated : rest.head? = some (.punctuation .terminator))
    (sighted : following.Sighted rest)
    (offers : stream.Offers (.keyword (.declare type) :: .identifier name :: rest) following) :
    (Reading.declaration .standard stream).Reads (.declaration type name none) rest following := by
  obtain ⟨behindType, typeRead, type_eq, behindTypeOffers⟩ :=
    Reading.advance_reads .declaringWord offers
  obtain ⟨behindName, nameRead, name_eq, behindNameOffers⟩ :=
    Reading.advance_reads (.kind .identifier) behindTypeOffers
  obtain ⟨after, met, isCurrent_eq, afterOffers⟩ :=
    Reading.isCurrent_reads (.punctuation .terminator) (by rintro ⟨⟩) behindNameOffers sighted
  rw [decide_eq_true terminated] at isCurrent_eq
  simp only [Reading.declaration, type_eq, name_eq, isCurrent_eq]
  exact ⟨after, _, rfl, afterOffers⟩

theorem initialised_declaration_reads {type : DataType} {name : String} {value : Expression}
    (derivation : Derives .expression tokens value) (boundary : NoOperator rest)
    (sighted : following.Sighted rest)
    (offers : stream.Offers
      (.keyword (.declare type) :: .identifier name :: .operator .assign :: (tokens ++ rest))
      following) :
    (Reading.declaration .standard stream).Reads (.declaration type name (some value)) rest
      following := by
  obtain ⟨behindType, typeRead, type_eq, behindTypeOffers⟩ :=
    Reading.advance_reads .declaringWord offers
  obtain ⟨behindName, nameRead, name_eq, behindNameOffers⟩ :=
    Reading.advance_reads (.kind .identifier) behindTypeOffers
  obtain ⟨ahead, looked, isCurrent_eq, aheadOffers⟩ :=
    Reading.isCurrent_reads (.punctuation .terminator) (by rintro ⟨⟩) behindNameOffers
      (following.sighted_cons _ _)
  obtain ⟨behindSign, passed, assign_eq, behindSignOffers⟩ :=
    Reading.expectAs_reads (.token (.operator .assign)) (by rintro ⟨⟩) aheadOffers
  obtain ⟨after, read, value_eq, afterOffers⟩ :=
    derivation.expression_reads boundary sighted behindSignOffers
  have isCurrent_eq : Reading.isCurrent behindName (.punctuation .terminator) =
      .done false ahead looked := isCurrent_eq
  simp only [Reading.declaration, type_eq, name_eq, isCurrent_eq, Reading.expect, assign_eq,
    value_eq]
  exact ⟨after, _, rfl, afterOffers⟩

theorem printing_reads {argument : Expression} (derivation : Derives .expression tokens argument)
    (offers : stream.Offers (.keyword .print :: .punctuation .openParen ::
      (tokens ++ .punctuation .closeParen :: rest)) following) :
    (Reading.printing .standard stream).Reads (.print argument) rest following := by
  obtain ⟨behindWord, wordRead, word_eq, behindWordOffers⟩ :=
    Reading.expectAs_reads (.token (.keyword .print)) (by rintro ⟨⟩) offers
  obtain ⟨inside, opened, open_eq, insideOffers⟩ :=
    Reading.expectAs_reads (.token (.punctuation .openParen)) (by rintro ⟨⟩) behindWordOffers
  have boundary : NoOperator (.punctuation .closeParen :: rest) := by
    rintro _ ⟨⟩
  obtain ⟨behind, read, argument_eq, behindOffers⟩ :=
    derivation.expression_reads boundary (following.sighted_cons _ _) insideOffers
  obtain ⟨after, closed, close_eq, afterOffers⟩ :=
    Reading.expectAs_reads (.token (.punctuation .closeParen)) (by rintro ⟨⟩) behindOffers
  simp only [Reading.printing, Reading.expect, word_eq, open_eq, argument_eq, close_eq]
  exact ⟨after, _, rfl, afterOffers⟩

theorem Derives.statementForm?_eq_none {value : Expression}
    (derivation : Derives .expression tokens value) :
    Reading.statementForm? .standard (tokens ++ rest).head? = none := by
  obtain ⟨first, behind, rfl, noKeyword⟩ := derivation.exists_first
  cases first with
  | keyword => exact absurd rfl noKeyword
  | _ => rfl

/-- Derived tokens are read as their statement, if behind them comes the end of the text or, as it
must behind a bare declaration, a terminator. -/
theorem DerivesStatement.reads {statement : Statement}
    (derivation : DerivesStatement tokens statement)
    (boundary : rest.head? = some (.punctuation .terminator) ∨
      rest = [] ∧ statement.isBare = false)
    (sighted : following.Sighted rest) (offers : stream.Offers (tokens ++ rest) following) :
    (Reading.statement .standard stream).Reads statement rest following := by
  have noOperator : NoOperator rest := by
    rintro sign head_eq
    rcases boundary with terminated | ⟨rfl, -⟩
    · cases terminated.symm.trans head_eq
    · cases head_eq
  obtain ⟨ahead, looked, current_eq, aheadOffers⟩ :=
    Reading.current_reads offers (sighted.of_suffix (List.suffix_append _ _))
  rw [Reading.statement, current_eq]
  cases derivation with
  | bare type name =>
      have terminated := boundary.resolve_right (fun ended => Bool.noConfusion ended.2)
      exact (bare_declaration_reads terminated sighted aheadOffers).since _
  | initialised type name value =>
      exact (initialised_declaration_reads value noOperator sighted aheadOffers).since _
  | print argument =>
      simp only [List.cons_append, List.append_assoc, List.nil_append] at aheadOffers
      exact (printing_reads argument aheadOffers).since _
  | expression value =>
      obtain ⟨after, read, value_eq, afterOffers⟩ :=
        value.expression_reads noOperator sighted aheadOffers
      simp only [value.statementForm?_eq_none, value_eq]
      exact Outcome.Reads.since ⟨after, read, rfl, afterOffers⟩ _

end Reads

/-! ## Programs -/

theorem derives_of_program (stream : TokenStream) {tokens : List Token} {program : Program}
    {after : TokenStream} {used : after.size + 0 ≤ stream.size}
    (upcoming : stream.tokens = .ok tokens)
    (done : Reading.program .standard stream = .done program after used) :
    DerivesProgram tokens program := by
  obtain ⟨place, upcoming⟩ := TokenStream.tokens_eq_ok_iff.mp upcoming
  rw [Reading.program] at done
  split at done
  · cases done
  · rename_i ahead looked current_eq
    obtain ⟨ended, -⟩ := Reading.of_current_done upcoming current_eq
    cases done
    rw [List.head?_eq_none_iff.mp ended.symm]
    exact .nil
  · rename_i ahead looked current_eq
    obtain ⟨-, ahead_eq⟩ := Reading.of_current_done upcoming current_eq
    split at done
    · cases done
    · rename_i first behind read statement_eq
      obtain ⟨front, others, rfl, others_eq, derivation, terminated⟩ :=
        derives_of_statement ahead_eq statement_eq
      split at done
      · cases done
      · rename_i lookedOn current_eq
        obtain ⟨ended, -⟩ := Reading.of_current_done others_eq current_eq
        obtain rfl := List.head?_eq_none_iff.mp ended.symm
        cases done
        rw [List.append_nil]
        refine .last derivation ?_
        cases bare : first.isBare with
        | true => cases terminated bare
        | false => rfl
      · rename_i next lookedOn current_eq
        obtain ⟨-, next_eq⟩ := Reading.of_current_done others_eq current_eq
        split at done
        · cases done
        · rename_i rest passed expect_eq
          obtain ⟨restTokens, rfl, rest_eq⟩ :=
            Reading.of_expectAs_done (by rintro ⟨⟩) next_eq expect_eq
          split at done
          · cases done
          · rename_i statements behindAll usedAll program_eq
            have others :=
              derives_of_program rest (TokenStream.tokens_eq_ok_iff.mpr ⟨place, rest_eq⟩) program_eq
            cases done
            exact .cons derivation others
termination_by stream.size

/-- In front of a terminated statement, a program is that statement and the program behind it. -/
theorem DerivesStatement.program_eq {tokens rest : List Token} {statement : Statement}
    (derivation : DerivesStatement tokens statement) {stream : TokenStream} {following : Feed}
    (offers : stream.Offers (tokens ++ .punctuation .terminator :: rest) following) :
    ∃ behind used, behind.Offers rest following ∧
      Reading.program .standard stream =
        ((Reading.program .standard behind).map (statement :: ·)).since used := by
  obtain ⟨first, others, rfl⟩ := derivation.exists_first
  obtain ⟨ahead, looked, current_eq, aheadOffers⟩ :=
    Reading.current_reads offers (following.sighted_cons _ _)
  obtain ⟨read, statementUsed, statement_eq, readOffers⟩ :=
    derivation.reads (.inl rfl) (following.sighted_cons _ _) aheadOffers
  obtain ⟨next, lookedOn, next_eq, nextOffers⟩ :=
    Reading.current_reads readOffers (following.sighted_cons _ _)
  obtain ⟨behind, passed, expect_eq, behindOffers⟩ :=
    Reading.expectAs_reads (.token (.punctuation .terminator)) (by rintro ⟨⟩) nextOffers
  refine ⟨behind, by omega, behindOffers, ?_⟩
  rw [Reading.program, current_eq]
  simp only [List.cons_append, List.head?_cons, statement_eq, next_eq, Reading.expect, expect_eq]
  cases Reading.program .standard behind <;> rfl

theorem DerivesProgram.reads {tokens : List Token} {program : Program}
    (derivation : DerivesProgram tokens program) {stream : TokenStream}
    (upcoming : stream.tokens = .ok tokens) :
    ∃ after used, Reading.program .standard stream = .done program after used ∧
      after.tokens = .ok [] := by
  obtain ⟨place, offers⟩ := TokenStream.tokens_eq_ok_iff.mp upcoming
  have sighted (tokens : List Token) :
      Feed.Sighted { placed := [], ending := .finished place } tokens :=
    fun _ => ⟨place, rfl⟩
  suffices reads : (Reading.program .standard stream).Reads program []
      { placed := [], ending := .finished place } by
    obtain ⟨after, used, program_eq, afterOffers⟩ := reads
    exact ⟨after, used, program_eq, TokenStream.tokens_eq_ok_iff.mpr ⟨place, afterOffers⟩⟩
  clear upcoming
  induction derivation generalizing stream with
  | nil =>
      obtain ⟨ahead, looked, current_eq, aheadOffers⟩ := Reading.current_reads offers (sighted _)
      rw [Reading.program, current_eq]
      exact ⟨ahead, looked, rfl, aheadOffers⟩
  | @last tokens statement statementDerives complete =>
      obtain ⟨first, behind, rfl⟩ := statementDerives.exists_first
      obtain ⟨ahead, looked, current_eq, aheadOffers⟩ := Reading.current_reads offers (sighted _)
      rw [← List.append_nil (first :: behind)] at aheadOffers
      obtain ⟨read, statementUsed, statement_eq, readOffers⟩ :=
        statementDerives.reads (.inr ⟨rfl, complete⟩) (sighted _) aheadOffers
      obtain ⟨after, ended, end_eq, afterOffers⟩ := Reading.current_reads readOffers (sighted _)
      rw [Reading.program, current_eq]
      simp only [List.head?_cons, statement_eq, end_eq, List.head?_nil]
      exact ⟨after, _, rfl, afterOffers⟩
  | @cons tokens rest statement others statementDerives _ induction =>
      obtain ⟨behind, passed, behindOffers, program_eq⟩ := statementDerives.program_eq offers
      obtain ⟨after, used, others_eq, afterOffers⟩ := induction behindOffers
      rw [program_eq, others_eq]
      exact ⟨after, _, rfl, afterOffers⟩

theorem parse_of_derives {source : String} {tokens : List Token} {program : Program}
    (split : tokenize source = .ok tokens) (derivation : DerivesProgram tokens program) :
    parse source = .ok program := by
  obtain ⟨after, used, program_eq, -⟩ := derivation.reads split
  rw [parse, program_eq]
  rfl

/-- A source text that can be split into tokens is read as a program exactly if its tokens derive
this program. -/
theorem parse_eq_ok_iff {source : String} {tokens : List Token}
    (split : tokenize source = .ok tokens) (program : Program) :
    parse source = .ok program ↔ DerivesProgram tokens program := by
  constructor
  · intro parsed
    rw [parse] at parsed
    cases outcome : Reading.program .standard (TokenStream.ofSource source) with
    | done value after used =>
        rw [outcome] at parsed
        cases parsed
        exact derives_of_program _ split outcome
    | failed error after =>
        rw [outcome] at parsed
        cases parsed
  · intro derivation
    obtain ⟨after, used, program_eq, -⟩ := derivation.reads split
    rw [parse, program_eq]
    rfl

/-- Differences are grouped from the left, products are formed first, and the parentheses around the
name leave no trace. -/
theorem parse_assigned_difference :
    parse "(a) = 1 - 2 - b * 3! inteiro c!" =
      .ok
        [.expression (.assignment "a"
          (.binary .subtract (.binary .subtract (.integer 1) (.integer 2))
            (.binary .multiply (.identifier "b") (.integer 3)))),
          .declaration .integer "c" none] := by
  have split : tokenize "(a) = 1 - 2 - b * 3! inteiro c!" =
      .ok
        [.punctuation .openParen, .identifier "a", .punctuation .closeParen, .operator .assign,
          .integer 1, .operator (.arithmetic .subtract), .integer 2,
          .operator (.arithmetic .subtract), .identifier "b", .operator (.arithmetic .multiply),
          .integer 3, .punctuation .terminator, .keyword (.declare .integer), .identifier "c",
          .punctuation .terminator] := by
    cbv
  refine (parse_eq_ok_iff split _).mpr ?_
  have oneLessTwo : Derives .sum ([.integer 1] ++ .operator (.arithmetic .subtract) :: [.integer 2])
      (.binary .subtract (.integer 1) (.integer 2)) :=
    .sum rfl (.ofTerm (.ofAtom (.integer 1))) (.ofAtom (.integer 2))
  have product : Derives .term
      ([.identifier "b"] ++ .operator (.arithmetic .multiply) :: [.integer 3])
      (.binary .multiply (.identifier "b") (.integer 3)) :=
    .product rfl (.ofAtom (.name "b")) (.integer 3)
  have difference := Derives.ofSum (.sum rfl oneLessTwo product : Derives .sum
    (_ ++ .operator (.arithmetic .subtract) :: _) (.binary .subtract _ _))
  have assigned := Derives.assignment (.targetGroup (.targetName "a")) difference
  exact .cons (.expression assigned) (.cons (.bare .integer "c") .nil)

end Luso
