import Luso.Proofs.Syntax.Streams

/-!
# Where expressions stop

Expressions are read here with tables whose entries are arbitrary handlers: a handler may do anything
with the parser that calls it, also change its tables, and need not come back.  However the operators
behind an expression were tried and refused on the way, an expression that is read stops only in front
of what does not continue it.  A grammar is one way to fill the tables.  In the standard one the two
weakest powers read alike, and no operator is left behind the expression.
-/

namespace Luso

/-- What is registered for tokens and operators.  A handler is known by a name; an operator may have a
power without a handler, and a handler without a power. -/
structure Tables (Starting Joining : Type) where
  /-- What starts an expression with a token of a sort. -/
  atom : TokenKind → Option Starting
  /-- How strongly an operator binds. -/
  power : Operator → Option BindingPower
  /-- What joins an operator to the expression on its left. -/
  operation : Operator → Option Joining

/-- A stream of tokens and the tables it is read with. -/
structure Parser (Starting Joining : Type) where
  /-- Where tokens come from. -/
  stream : TokenStream
  /-- What is registered. -/
  tables : Tables Starting Joining

/-- What comes of a call: a result and the parser left; nothing if the call does not come back. -/
abbrev Parser.Run (Starting Joining α : Type) : Type :=
  Option (Except ParseError α × Parser Starting Joining)

/-- What the handlers do. -/
structure Handlers (Starting Joining : Type) where
  /-- Read the start of an expression. -/
  atom : Starting → Parser Starting Joining → Parser.Run Starting Joining Expression
  /-- Read an operator of a power and what is on its right. -/
  operation : Joining → Expression → BindingPower → Parser Starting Joining →
    Parser.Run Starting Joining Expression

namespace Parser

variable {Starting Joining : Type}

/-- The next token, which stays where it is. -/
def current (parser : Parser Starting Joining) :
    Except ParseError (Option Token) × Parser Starting Joining :=
  match parser.stream.peek with
  | (.ok token, ahead) => (.ok token, { parser with stream := ahead })
  | (.error error, after) => (.error (.lexical error), { parser with stream := after })

/-- The operators that continue the expression `left` at the given power, if so many rounds are enough
to come back. -/
def climb (handlers : Handlers Starting Joining) (power : BindingPower) :
    Nat → Expression → Parser Starting Joining → Run Starting Joining Expression
  | 0, _, _ => none
  | rounds + 1, left, parser =>
      match parser.current with
      | (.error error, after) => some (.error error, after)
      | (.ok (some (.operator sign)), ahead) =>
          match ahead.tables.power sign with
          | none => some (.ok left, ahead)
          | some own =>
              if sign.binds own power then
                match ahead.tables.operation sign with
                | none => some (.ok left, ahead)
                | some handler =>
                    match handlers.operation handler left own ahead with
                    | none => none
                    | some (.error error, after) => some (.error error, after)
                    | some (.ok whole, after) => climb handlers power rounds whole after
              else
                some (.ok left, ahead)
      | (.ok _, ahead) => some (.ok left, ahead)

/-- An expression: what its first token starts and the operators after it, if so many rounds are enough
to come back. -/
def expression (handlers : Handlers Starting Joining) (power : BindingPower) (rounds : Nat)
    (parser : Parser Starting Joining) : Run Starting Joining Expression :=
  match parser.current with
  | (.error error, after) => some (.error error, after)
  | (.ok none, ahead) => some (.error (Reading.unexpectedEnd ahead.stream .atom), ahead)
  | (.ok (some token), ahead) =>
      match ahead.tables.atom token.kind with
      | none => some (.error (Reading.unexpectedToken ahead.stream .atom token), ahead)
      | some handler =>
          match handlers.atom handler ahead with
          | none => none
          | some (.error error, after) => some (.error error, after)
          | some (.ok left, after) => climb handlers power rounds left after

/-- Reading an expression comes back with a result and a parser. -/
def Returns (handlers : Handlers Starting Joining) (power : BindingPower)
    (parser : Parser Starting Joining) (result : Except ParseError Expression)
    (after : Parser Starting Joining) : Prop :=
  ∃ rounds, parser.expression handlers power rounds = some (result, after)

/-- An operator does not continue an expression that is read at a power: something of it is not
registered, or it does not bind there. -/
def Refuses (parser : Parser Starting Joining) (power : BindingPower) (sign : Operator) : Prop :=
  parser.tables.power sign = none ∨ parser.tables.operation sign = none ∨
    ∃ own, parser.tables.power sign = some own ∧
      (sign ≠ .assign → own.rank ≤ power.rank) ∧ (sign = .assign → own.rank < power.rank)

/-- What comes next is in sight, and it is no operator that continues an expression. -/
def Stopped (parser : Parser Starting Joining) (power : BindingPower) : Prop :=
  ∃ next, parser.stream.peek = (.ok next, parser.stream) ∧
    ∀ sign, next = some (.operator sign) → parser.Refuses power sign

end Parser

/-- Looking again shows the same and changes nothing. -/
theorem TokenStream.peek_again {stream ahead : TokenStream} {seen : Option Token}
    (looked : stream.peek = (.ok seen, ahead)) : ahead.peek = (.ok seen, ahead) := by
  rw [peek] at looked
  split at looked
  · rename_i lookahead_eq
    cases looked
    rw [peek, lookahead_eq]
  · split at looked
    · cases looked
      rfl
    · rename_i notOk
      exact absurd looked (notOk _ _)

theorem Operator.binds_eq_false_iff {sign : Operator} {own floor : BindingPower} :
    sign.binds own floor = false ↔
      (sign ≠ .assign → own.rank ≤ floor.rank) ∧ (sign = .assign → own.rank < floor.rank) := by
  cases sign <;> simp [binds, associativity]

namespace Parser

variable {Starting Joining : Type}

theorem peek_of_current {parser ahead : Parser Starting Joining} {next : Option Token}
    (looked : parser.current = (.ok next, ahead)) :
    ahead.stream.peek = (.ok next, ahead.stream) := by
  rw [current] at looked
  split at looked
  · rename_i peek_eq
    cases looked
    exact TokenStream.peek_again peek_eq
  · cases looked

/-- Every way out of the loop that is no error leads to a place where the expression stops.  What the
handlers do does not matter: the loop looks at the tokens and tables that they leave. -/
theorem climb_stopped (handlers : Handlers Starting Joining) (power : BindingPower) (rounds : Nat)
    (left : Expression) (parser : Parser Starting Joining) {tree : Expression}
    {after : Parser Starting Joining}
    (done : climb handlers power rounds left parser = some (.ok tree, after)) :
    after.Stopped power := by
  induction rounds generalizing left parser with
  | zero => cases done
  | succ rounds induction =>
      rw [climb] at done
      split at done
      · cases done
      · rename_i sign ahead current_eq
        have sight := peek_of_current current_eq
        split at done
        · rename_i unregistered
          cases done
          refine ⟨_, sight, ?_⟩
          rintro _ ⟨⟩
          exact .inl unregistered
        · rename_i own registered
          split at done
          · split at done
            · rename_i unhandled
              cases done
              refine ⟨_, sight, ?_⟩
              rintro _ ⟨⟩
              exact .inr (.inl unhandled)
            · split at done
              · cases done
              · cases done
              · exact induction _ _ done
          · rename_i loose
            cases done
            refine ⟨_, sight, ?_⟩
            rintro _ ⟨⟩
            exact .inr (.inr ⟨own, registered,
              Operator.binds_eq_false_iff.mp (by simpa using loose)⟩)
      · rename_i next ahead noOperator current_eq
        cases done
        refine ⟨next, peek_of_current current_eq, ?_⟩
        rintro sign rfl
        exact absurd rfl (noOperator sign)

theorem Returns.stopped {handlers : Handlers Starting Joining} {power : BindingPower}
    {parser after : Parser Starting Joining} {tree : Expression}
    (returns : parser.Returns handlers power (.ok tree) after) : after.Stopped power := by
  obtain ⟨rounds, done⟩ := returns
  rw [expression] at done
  split at done
  · cases done
  · cases done
  · split at done
    · cases done
    · split at done
      · cases done
      · cases done
      · exact climb_stopped handlers power rounds _ _ done

/-- More rounds come back with the same. -/
theorem climb_of_le {handlers : Handlers Starting Joining} {power : BindingPower}
    {rounds more : Nat} {left : Expression} {parser : Parser Starting Joining}
    {outcome : Except ParseError Expression × Parser Starting Joining}
    (done : climb handlers power rounds left parser = some outcome) (le : rounds ≤ more) :
    climb handlers power more left parser = some outcome := by
  induction rounds generalizing more left parser with
  | zero => cases done
  | succ rounds induction =>
      obtain ⟨more, rfl⟩ := Nat.exists_eq_add_one_of_ne_zero (Nat.ne_of_gt (Nat.zero_lt_of_lt le))
      rw [climb] at done ⊢
      split at done
      · exact done
      · split at done
        · exact done
        · split at done
          · rename_i binds
            rw [if_pos binds]
            split at done
            · exact done
            · split at done
              · exact done
              · exact done
              · exact induction done (Nat.le_of_succ_le_succ le)
          · rename_i loose
            rw [if_neg loose]
            exact done
      · exact done

theorem expression_of_le {handlers : Handlers Starting Joining} {power : BindingPower}
    {rounds more : Nat} {parser : Parser Starting Joining}
    {outcome : Except ParseError Expression × Parser Starting Joining}
    (done : parser.expression handlers power rounds = some outcome) (le : rounds ≤ more) :
    parser.expression handlers power more = some outcome := by
  rw [expression] at done ⊢
  split at done
  · exact done
  · exact done
  · split at done
    · exact done
    · split at done
      · exact done
      · exact done
      · exact climb_of_le done le

/-- However many rounds are allowed, a reading comes back with one result and one parser. -/
theorem Returns.unique {handlers : Handlers Starting Joining} {power : BindingPower}
    {parser after after' : Parser Starting Joining} {result result' : Except ParseError Expression}
    (returns : parser.Returns handlers power result after)
    (returns' : parser.Returns handlers power result' after') :
    result = result' ∧ after = after' := by
  obtain ⟨rounds, done⟩ := returns
  obtain ⟨rounds', done'⟩ := returns'
  have first := expression_of_le done (Nat.le_max_left rounds rounds')
  have second := expression_of_le done' (Nat.le_max_right rounds rounds')
  cases first.symm.trans second
  exact ⟨rfl, rfl⟩

end Parser

/-! ## Grammars as tables -/

/-- What comes of a reading, as what comes of a call. -/
def Outcome.run {Starting Joining α : Type} {least : Nat} {start : TokenStream}
    (outcome : Outcome α least start) (tables : Tables Starting Joining) :
    Parser.Run Starting Joining α :=
  some (outcome.result, { stream := outcome.after, tables })

@[simp]
theorem Outcome.run_since {Starting Joining α : Type} {least total : Nat}
    {start middle : TokenStream} (outcome : Outcome α least middle)
    (used : middle.size + total ≤ start.size + least) (tables : Tables Starting Joining) :
    (outcome.since used).run tables = outcome.run tables := by
  cases outcome <;> rfl

namespace Grammar

/-- A grammar registers power and handler of an operator together. -/
def tables (grammar : Grammar) : Tables AtomForm OperatorForm :=
  { atom := grammar.atom
    power := fun sign => (grammar.operator sign).map fun (own, _) => own
    operation := fun sign => (grammar.operator sign).map fun (_, form) => form }

/-- Its handlers read the form that they stand for, and leave the tables alone. -/
def handlers (grammar : Grammar) : Handlers AtomForm OperatorForm :=
  { atom := fun form parser => (Reading.atom grammar parser.stream form).run parser.tables
    operation := fun form left own parser =>
      (Reading.operation grammar parser.stream form left own).run parser.tables }

/-- The parser with a grammar in its tables. -/
def parser (grammar : Grammar) (stream : TokenStream) : Parser AtomForm OperatorForm :=
  { stream, tables := grammar.tables }

theorem current_runs (grammar : Grammar) (stream : TokenStream) :
    (grammar.parser stream).current =
      ((Reading.current stream).result, grammar.parser (Reading.current stream).after) := by
  rcases looked : stream.peek with ⟨error | found, ahead⟩
  · rw [Reading.current_of_peek_error looked, Parser.current, parser, looked]
    rfl
  · obtain ⟨used, current_eq⟩ := Reading.current_of_peek_ok looked
    rw [current_eq, Parser.current, parser, looked]
    rfl

/-- Every round takes something off the stream, and so its size is enough. -/
theorem climb_runs (grammar : Grammar) (power : BindingPower) (rounds : Nat) (left : Expression)
    (stream : TokenStream) (enough : stream.size < rounds) :
    Parser.climb grammar.handlers power rounds left (grammar.parser stream) =
      (Reading.climb grammar stream left power).run grammar.tables := by
  induction rounds generalizing left stream with
  | zero => omega
  | succ rounds induction =>
      rw [Parser.climb, current_runs, Reading.climb]
      rcases Reading.current stream with ⟨_ | (_ | _ | _ | _ | sign | _), ahead, looked⟩ | _
      case done.some.operator =>
        dsimp only [Outcome.result, Outcome.after, parser, tables]
        rcases grammar.operator sign with _ | ⟨own, form⟩
        · rfl
        · dsimp only [Option.map_some]
          split
          · dsimp only [handlers]
            rcases Reading.operation grammar ahead form left own with ⟨whole, after, used⟩ | _
            · exact (induction whole after (by omega)).trans (Outcome.run_since _ _ _).symm
            · rfl
          · rfl
      all_goals rfl

theorem expression_runs (grammar : Grammar) (power : BindingPower) (stream : TokenStream)
    (rounds : Nat) (enough : stream.size ≤ rounds) :
    (grammar.parser stream).expression grammar.handlers power rounds =
      (Reading.expression grammar stream power).run grammar.tables := by
  rw [Parser.expression, current_runs, Reading.expression]
  rcases Reading.current stream with ⟨_ | token, ahead, looked⟩ | _
  case done.some =>
    dsimp only [Outcome.result, Outcome.after, parser, tables]
    rcases grammar.atom token.kind with _ | form
    · rfl
    · dsimp only [handlers]
      rcases Reading.atom grammar ahead form with ⟨left, after, used⟩ | _
      · exact (climb_runs grammar power rounds left after (by omega)).trans
          (Outcome.run_since _ _ _).symm
      · rfl
  all_goals rfl

/-- Reading an expression of a grammar is reading with these tables. -/
theorem returns_iff {grammar : Grammar} {power : BindingPower} {stream : TokenStream}
    {result : Except ParseError Expression} {after : Parser AtomForm OperatorForm} :
    (grammar.parser stream).Returns grammar.handlers power result after ↔
      (Reading.expression grammar stream power).result = result ∧
        grammar.parser (Reading.expression grammar stream power).after = after := by
  have returns : (grammar.parser stream).Returns grammar.handlers power
      (Reading.expression grammar stream power).result
      (grammar.parser (Reading.expression grammar stream power).after) :=
    ⟨_, expression_runs grammar power stream _ (Nat.le_refl _)⟩
  constructor
  · exact returns.unique
  · rintro ⟨rfl, rfl⟩
    exact returns

end Grammar

/-! ## The two weakest powers -/

namespace Reading

/-- Every operator of the standard grammar binds at the two weakest powers. -/
theorem binds_weakest {sign : Operator} {own : BindingPower} {form : OperatorForm}
    (registered : Grammar.standard.operator sign = some (own, form)) :
    sign.binds own .lowest = true ∧ sign.binds own .assignment = true := by
  rcases sign with (_ | _ | _ | _) | _ <;> cases registered <;> exact ⟨rfl, rfl⟩

theorem not_refuses {stream : TokenStream} {power : BindingPower} {sign : Operator}
    (weakest : power = .lowest ∨ power = .assignment) :
    ¬ (Grammar.standard.parser stream).Refuses power sign := by
  rcases sign with (_ | _ | _ | _) | _ <;> rcases weakest with rfl | rfl <;>
    simp [Parser.Refuses, Grammar.parser, Grammar.tables, Grammar.standard, BindingPower.rank]

theorem climb_lowest (stream : TokenStream) (left : Expression) :
    climb .standard stream left .lowest = climb .standard stream left .assignment := by
  rw [climb, climb]
  rcases current stream with ⟨_ | (_ | _ | _ | _ | sign | _), ahead, looked⟩ | _
  case done.some.operator =>
    dsimp only
    split
    · rfl
    · rename_i own form registered
      obtain ⟨lowest, assignment⟩ := binds_weakest registered
      rw [if_pos lowest, if_pos assignment]
      rcases operation .standard ahead form left own with ⟨whole, after, used⟩ | _
      · dsimp only
        rw [climb_lowest after whole]
      · rfl
  all_goals rfl
termination_by stream.size

theorem expression_lowest (stream : TokenStream) :
    expression .standard stream .lowest = expression .standard stream .assignment := by
  rw [expression, expression]
  rcases current stream with ⟨_ | token, ahead, looked⟩ | _
  case done.some =>
    dsimp only
    split
    · rfl
    · rename_i form _
      rcases atom .standard ahead form with ⟨left, after, used⟩ | _
      · dsimp only
        rw [climb_lowest]
      · rfl
  all_goals rfl

/-- Whatever the tables hold and the handlers do, an expression that is read stops in front of the end
of the text, of something else than an operator, or of an operator that does not continue it.  Reading
with a grammar is one case.  In the standard grammar, the two weakest powers come to the same result and
leave the same stream, and no operator is behind what they read. -/
theorem expression_stops :
    (∀ {Starting Joining : Type} (handlers : Handlers Starting Joining) (power : BindingPower)
      (parser : Parser Starting Joining) (tree : Expression) (after : Parser Starting Joining),
      parser.Returns handlers power (.ok tree) after → after.Stopped power) ∧
    (∀ (grammar : Grammar) (stream : TokenStream) (power : BindingPower),
      (∀ result after, (grammar.parser stream).Returns grammar.handlers power result after ↔
        (expression grammar stream power).result = result ∧
          grammar.parser (expression grammar stream power).after = after) ∧
        ∀ tree, (expression grammar stream power).result = .ok tree →
          (grammar.parser (expression grammar stream power).after).Stopped power) ∧
    (∀ stream, expression .standard stream .lowest = expression .standard stream .assignment) ∧
    ∀ (stream : TokenStream) (power : BindingPower), power = .lowest ∨ power = .assignment →
      ∀ tree, (expression .standard stream power).result = .ok tree →
        ∃ next, (expression .standard stream power).after.peek =
            (.ok next, (expression .standard stream power).after) ∧
          ∀ sign, next ≠ some (.operator sign) := by
  have stops (grammar : Grammar) (stream : TokenStream) (power : BindingPower) (tree : Expression)
      (read : (expression grammar stream power).result = .ok tree) :
      (grammar.parser (expression grammar stream power).after).Stopped power :=
    (Grammar.returns_iff.mpr ⟨read, rfl⟩).stopped
  refine ⟨fun handlers power parser tree after returns => returns.stopped,
    fun grammar stream power => ⟨fun result after => Grammar.returns_iff, stops grammar stream power⟩,
    expression_lowest, fun stream power weakest tree read => ?_⟩
  obtain ⟨next, sight, refused⟩ := stops .standard stream power tree read
  exact ⟨next, sight, fun sign next_eq => not_refuses weakest (refused sign next_eq)⟩

/-- Tables in which a sum has a power and no handler. -/
def unhandled : Tables AtomForm OperatorForm :=
  { Grammar.standard.tables with
    operation := fun sign =>
      if sign = .arithmetic .add then none else Grammar.standard.tables.operation sign }

/-- A sum stops an expression where it has no handler and where the expression is read at its power; the
end of a group always does. -/
theorem expression_stops_unhandled :
    (∃ after, ({ stream := TokenStream.ofSource "1 * 2 + 3", tables := unhandled } :
        Parser AtomForm OperatorForm).Returns Grammar.standard.handlers .lowest
          (.ok (.binary .multiply (.integer 1) (.integer 2))) after ∧
      after.Stopped .lowest) ∧
    (Grammar.standard.parser
      (expression .standard (TokenStream.ofSource "1 * 2 + 3") .additive).after).Stopped
        .additive ∧
    ∃ next, (expression .standard (TokenStream.ofSource "1)") .assignment).after.peek =
        (.ok next, (expression .standard (TokenStream.ofSource "1)") .assignment).after) ∧
      ∀ sign, next ≠ some (.operator sign) := by
  obtain ⟨stops, grammars, -, weakest⟩ := expression_stops
  have read : (({ stream := TokenStream.ofSource "1 * 2 + 3", tables := unhandled } :
      Parser AtomForm OperatorForm).expression Grammar.standard.handlers .lowest 9).map Prod.fst =
        some (.ok (.binary .multiply (.integer 1) (.integer 2))) := by
    cbv
  obtain ⟨⟨_, after⟩, run_eq, rfl⟩ := Option.map_eq_some_iff.mp read
  have product : ((Grammar.standard.parser (TokenStream.ofSource "1 * 2 + 3")).expression
      Grammar.standard.handlers .additive 9).map Prod.fst =
        some (.ok (.binary .multiply (.integer 1) (.integer 2))) := by
    cbv
  have value : ((Grammar.standard.parser (TokenStream.ofSource "1)")).expression
      Grammar.standard.handlers .assignment 9).map Prod.fst = some (.ok (.integer 1)) := by
    cbv
  obtain ⟨⟨_, _⟩, product_eq, rfl⟩ := Option.map_eq_some_iff.mp product
  obtain ⟨⟨_, _⟩, value_eq, rfl⟩ := Option.map_eq_some_iff.mp value
  obtain ⟨product_read, -⟩ := ((grammars _ _ _).1 _ _).mp ⟨_, product_eq⟩
  obtain ⟨value_read, -⟩ := ((grammars _ _ _).1 _ _).mp ⟨_, value_eq⟩
  exact ⟨⟨after, ⟨_, run_eq⟩, stops _ _ _ _ _ ⟨_, run_eq⟩⟩, (grammars _ _ _).2 _ product_read,
    weakest _ _ (.inr rfl) _ value_read⟩

end Reading
end Luso
