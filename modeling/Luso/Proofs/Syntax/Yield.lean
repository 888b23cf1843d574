import Luso.Proofs.Syntax.Depth
import Luso.Proofs.Syntax.Flattening

/-!
# What a reading takes

A grammar may register any construct for any token, and many such grammars refuse every program.  But
whatever is read under one of them is made of the tokens that were handed out meanwhile: none is lost
or used twice, a construct takes one token at least, and the tree keeps all of them in order but for
parentheses and terminators.
-/

namespace Luso

/-- A reading that succeeds has taken tokens off its stream that fit its value. -/
inductive Outcome.Takes {α : Type} {least : Nat} {start : TokenStream}
    (fits : α → List Token → Prop) : Outcome α least start → Prop where
  | done {value after used} {taken : List Token} :
      start.Offers taken after.feed → fits value taken → Takes fits (.done value after used)
  | failed {error after} : Takes fits (.failed error after)

namespace Outcome.Takes

variable {α : Type} {fits : α → List Token → Prop} {least : Nat} {start : TokenStream}
  {outcome : Outcome α least start}

/-- What is read from a later stream is read from an earlier one, with the tokens between them. -/
theorem since {total : Nat} {earlier : TokenStream} {front : List Token}
    {fitsAll : α → List Token → Prop} (takes : outcome.Takes fits)
    (offers : earlier.Offers front start.feed) (used : start.size + total ≤ earlier.size + least)
    (covers : ∀ {value taken}, fits value taken → fitsAll value (front ++ taken)) :
    (outcome.since used).Takes fitsAll := by
  cases takes with
  | done taken fit => exact .done (offers.trans taken) (covers fit)
  | failed => exact .failed

theorem map {β : Type} {change : α → β} {fitsChanged : β → List Token → Prop}
    (takes : outcome.Takes fits)
    (changes : ∀ {value taken}, fits value taken → fitsChanged (change value) taken) :
    (outcome.map change).Takes fitsChanged := by
  cases takes with
  | done offers fit => exact .done offers (changes fit)
  | failed => exact .failed

theorem weaken {weaker : α → List Token → Prop} (takes : outcome.Takes fits)
    (fits_weaker : ∀ {value taken}, fits value taken → weaker value taken) :
    outcome.Takes weaker := by
  cases takes with
  | done offers fit => exact .done offers (fits_weaker fit)
  | failed => exact .failed

/-- What is done next with an outcome takes fitting tokens if it does so after failing and after
taking any tokens that fit. -/
@[elab_as_elim]
theorem elim {motive : Outcome α least start → Prop} (takes : outcome.Takes fits)
    (failed : ∀ {error after}, motive (.failed error after))
    (done : ∀ {value after used taken}, start.Offers taken after.feed → fits value taken →
      motive (.done value after used)) :
    motive outcome := by
  cases takes with
  | done offers fit => exact done offers fit
  | failed => exact failed

end Outcome.Takes

/-- Tokens make up a tree: they are not none, and the tree keeps them all but for parentheses and
terminators. -/
def MakesUp (flattened taken : List Token) : Prop :=
  taken ≠ [] ∧ flattened = taken.filter Token.isKept

namespace Reading

/-! ## Single tokens -/

/-- Looking ahead takes nothing, and shows nothing only at the end. -/
theorem current_takes (stream : TokenStream) :
    (current stream).Takes
      (fun found taken => taken = [] ∧ (found = none → stream.tokens = .ok [])) := by
  rcases stream.feed.eq_ending_or_cons with
    ⟨place, feed_eq⟩ | ⟨error, feed_eq⟩ | ⟨token, place, rest, feed_eq⟩
  · obtain ⟨ahead, used, current_eq, ahead_eq, -⟩ := current_of_feed_finished feed_eq
    rw [current_eq]
    refine .done (ahead_eq ▸ .refl stream) ⟨rfl, fun _ => ?_⟩
    exact TokenStream.tokens_eq_ok_iff.mpr ⟨place, feed_eq ▸ .refl stream⟩
  · obtain ⟨after, current_eq⟩ := current_of_feed_broken feed_eq
    rw [current_eq]
    exact .failed
  · obtain ⟨ahead, used, current_eq, ahead_eq, -⟩ := current_of_feed_cons feed_eq
    rw [current_eq]
    exact .done (ahead_eq ▸ .refl stream) ⟨rfl, by rintro ⟨⟩⟩

theorem advance_takes (stream : TokenStream) (expected : Expectation) :
    (advance stream expected).Takes (fun token taken => taken = [token]) := by
  rcases stream.feed.eq_ending_or_cons with
    ⟨place, feed_eq⟩ | ⟨error, feed_eq⟩ | ⟨token, place, rest, feed_eq⟩
  · obtain ⟨after, advance_eq, -⟩ := advance_of_feed_finished expected feed_eq
    rw [advance_eq]
    exact .failed
  · obtain ⟨after, advance_eq⟩ := advance_of_feed_broken expected feed_eq
    rw [advance_eq]
    exact .failed
  · obtain ⟨after, used, advance_eq, rfl, -⟩ := advance_of_feed_cons expected feed_eq
    rw [advance_eq]
    exact .done ⟨[(token, place)], rfl, feed_eq⟩ rfl

theorem isCurrent_takes (stream : TokenStream) (token : Token) :
    (isCurrent stream token).Takes (fun _ taken => taken = []) :=
  (current_takes stream).map And.left

theorem expectAs_takes (stream : TokenStream) (wanted : Token) (expected : Expectation)
    (notDecimal : wanted.kind ≠ .decimal) :
    (expectAs stream wanted expected).Takes (fun _ taken => taken = [wanted]) := by
  rw [expectAs]
  rcases stream.feed.eq_ending_or_cons with
    ⟨place, feed_eq⟩ | ⟨error, feed_eq⟩ | ⟨token, place, rest, feed_eq⟩
  · obtain ⟨ahead, used, current_eq, -⟩ := current_of_feed_finished feed_eq
    rw [current_eq]
    exact .failed
  · obtain ⟨after, current_eq⟩ := current_of_feed_broken feed_eq
    rw [current_eq]
    exact .failed
  · obtain ⟨ahead, used, current_eq, ahead_eq, -⟩ := current_of_feed_cons feed_eq
    obtain ⟨after, last, advance_eq, rfl, -⟩ :=
      advance_of_feed_cons expected (ahead_eq.trans feed_eq)
    rw [current_eq]
    dsimp only
    rw [advance_eq, Token.equals_eq_decide notDecimal]
    split
    · rename_i same
      obtain rfl := of_decide_eq_true same
      exact .done ⟨[(token, place)], rfl, feed_eq⟩ rfl
    · exact .failed

theorem expect_takes (stream : TokenStream) (wanted : Token)
    (notDecimal : wanted.kind ≠ .decimal) :
    (expect stream wanted).Takes (fun _ taken => taken = [wanted]) :=
  expectAs_takes stream wanted _ notDecimal

theorem primary_takes (stream : TokenStream) :
    (primary stream).Takes (fun value taken => MakesUp value.flatten taken) := by
  rw [primary]
  refine (advance_takes stream .atom).elim .failed fun {token _ _ _} offers taken_eq => ?_
  obtain rfl := taken_eq
  cases token with
  | integer | decimal | identifier => exact .done offers ⟨List.cons_ne_nil _ _, rfl⟩
  | _ => exact .failed

/-! ## Expressions -/

-- A climb starts with `left` already read, so what it takes does not make up the whole tree: these
-- tokens come behind those of `left`.
mutual

theorem expression_takes (grammar : Grammar) (stream : TokenStream) (power : BindingPower) :
    (expression grammar stream power).Takes
      (fun value taken => MakesUp value.flatten taken) := by
  rw [expression]
  refine (current_takes stream).elim .failed fun {found ahead _ _} looked taken_eq => ?_
  obtain ⟨rfl, -⟩ := taken_eq
  cases found with
  | none => exact .failed
  | some token =>
      dsimp only
      split
      · exact .failed
      · rename_i form _
        refine (atom_takes grammar ahead form).elim .failed
          fun {left after _ front} offers made => ?_
        refine (climb_takes grammar after left power).since (looked.trans offers) _
          fun {value taken} operators_eq => ⟨by simp [made.1], ?_⟩
        rw [operators_eq, made.2, List.nil_append, List.filter_append]
termination_by 2 * stream.size + 1

theorem climb_takes (grammar : Grammar) (stream : TokenStream) (left : Expression)
    (power : BindingPower) :
    (climb grammar stream left power).Takes
      (fun value taken => value.flatten = left.flatten ++ taken.filter Token.isKept) := by
  rw [climb]
  refine (current_takes stream).elim .failed fun {found ahead _ _} looked taken_eq => ?_
  obtain ⟨rfl, -⟩ := taken_eq
  have stops : left.flatten = left.flatten ++ List.filter Token.isKept [] := by simp
  rcases found with _ | (_ | _ | _ | _ | sign | _)
  case some.operator =>
    dsimp only
    split
    · exact .done looked stops
    · rename_i own form _
      split
      · refine (operation_takes grammar ahead form left own).elim .failed
          fun {whole after _ front} offers made => ?_
        refine (climb_takes grammar after whole power).since (looked.trans offers) _
          fun {value taken} operators_eq => ?_
        rw [operators_eq, made.2, List.nil_append, List.filter_append, List.append_assoc]
      · exact .done looked stops
  all_goals exact .done looked stops
termination_by 2 * stream.size + 1

theorem atom_takes (grammar : Grammar) (stream : TokenStream) (form : AtomForm) :
    (atom grammar stream form).Takes (fun value taken => MakesUp value.flatten taken) := by
  cases form with
  | primary =>
      rw [atom]
      exact primary_takes stream
  | group =>
      rw [atom]
      refine (expectAs_takes stream _ .atom (by rintro ⟨⟩)).elim .failed
        fun {_ inside _ _} opening taken_eq => ?_
      obtain rfl := taken_eq
      dsimp only
      refine (expression_takes grammar inside .lowest).elim .failed
        fun {value behind _ contents} offers made => ?_
      dsimp only
      refine (expect_takes behind _ (by rintro ⟨⟩)).elim .failed
        fun {_ after _ _} closing taken_eq => ?_
      obtain rfl := taken_eq
      refine .done ((opening.trans offers).trans closing) ⟨by simp, ?_⟩
      simp [made.2, Token.isKept]
termination_by 2 * stream.size

/-- An operator and its right operand are taken, and the left one stays in front of them. -/
theorem operation_takes (grammar : Grammar) (stream : TokenStream) (form : OperatorForm)
    (left : Expression) (power : BindingPower) :
    (operation grammar stream form left power).Takes
      (fun value taken => taken ≠ [] ∧
        value.flatten = left.flatten ++ taken.filter Token.isKept) := by
  cases form with
  | binary =>
      rw [operation]
      refine (advance_takes stream _).elim .failed fun {found behind _ _} passed taken_eq => ?_
      obtain rfl := taken_eq
      rcases found with _ | _ | _ | _ | (sign | _) | _
      case operator.arithmetic =>
        dsimp only
        refine (expression_takes grammar behind power).elim .failed
          fun {right _ _ operand} offers made => ?_
        refine .done (passed.trans offers) ⟨by simp, ?_⟩
        simp [Expression.flatten, made.2, List.filter_cons, Token.isKept]
      all_goals exact .failed
  | assignment =>
      rw [operation]
      refine (expect_takes stream _ (by rintro ⟨⟩)).elim .failed
        fun {_ behind _ _} passed taken_eq => ?_
      obtain rfl := taken_eq
      dsimp only
      refine (expression_takes grammar behind power).elim .failed
        fun {value _ _ operand} offers made => ?_
      cases left with
      | identifier name =>
          refine .done (passed.trans offers) ⟨by simp, ?_⟩
          simp [Expression.flatten, made.2, List.filter_cons, Token.isKept]
      | _ => exact .failed
termination_by 2 * stream.size

end

/-! ## Statements and programs -/

theorem declaration_takes (grammar : Grammar) (stream : TokenStream) :
    (declaration grammar stream).Takes
      (fun statement taken => MakesUp statement.flatten taken) := by
  rw [declaration]
  refine (advance_takes stream _).elim .failed fun {word behindType _ _} typeRead taken_eq => ?_
  obtain rfl := taken_eq
  rcases word with (type | _) | _ | _ | _ | _ | _
  case keyword.declare =>
    dsimp only
    refine (advance_takes behindType _).elim .failed
      fun {name behindName _ _} nameRead taken_eq => ?_
    obtain rfl := taken_eq
    cases name with
    | identifier name =>
        dsimp only
        refine (isCurrent_takes behindName _).elim .failed
          fun {met ahead _ _} looked taken_eq => ?_
        obtain rfl := taken_eq
        have front := (typeRead.trans nameRead).trans looked
        cases met with
        | true => exact .done front ⟨by simp, rfl⟩
        | false =>
            dsimp only
            refine (expect_takes ahead _ (by rintro ⟨⟩)).elim .failed
              fun {_ behindSign _ _} passed taken_eq => ?_
            obtain rfl := taken_eq
            dsimp only
            refine (expression_takes grammar behindSign .lowest).elim .failed
              fun {value _ _ initial} offers made => ?_
            refine .done ((front.trans passed).trans offers) ⟨by simp, ?_⟩
            simp [Statement.flatten, made.2, List.filter_cons, Token.isKept]
    | _ => exact .failed
  all_goals exact .failed

theorem printing_takes (grammar : Grammar) (stream : TokenStream) :
    (printing grammar stream).Takes (fun statement taken => MakesUp statement.flatten taken) := by
  rw [printing]
  refine (expect_takes stream _ (by rintro ⟨⟩)).elim .failed
    fun {_ behindWord _ _} wordRead taken_eq => ?_
  obtain rfl := taken_eq
  dsimp only
  refine (expect_takes behindWord _ (by rintro ⟨⟩)).elim .failed
    fun {_ inside _ _} opening taken_eq => ?_
  obtain rfl := taken_eq
  dsimp only
  refine (expression_takes grammar inside .lowest).elim .failed
    fun {argument behind _ contents} offers made => ?_
  dsimp only
  refine (expect_takes behind _ (by rintro ⟨⟩)).elim .failed
    fun {_ after _ _} closing taken_eq => ?_
  obtain rfl := taken_eq
  refine .done (((wordRead.trans opening).trans offers).trans closing) ⟨by simp, ?_⟩
  simp [Statement.flatten, made.2, List.filter_cons, Token.isKept]

theorem statementOf_takes (grammar : Grammar) (stream : TokenStream) (form : StatementForm) :
    (statementOf grammar stream form).Takes
      (fun statement taken => MakesUp statement.flatten taken) := by
  cases form with
  | declaration => exact declaration_takes grammar stream
  | print => exact printing_takes grammar stream

theorem statement_takes (grammar : Grammar) (stream : TokenStream) :
    (statement grammar stream).Takes (fun statement taken => MakesUp statement.flatten taken) := by
  rw [statement]
  refine (current_takes stream).elim .failed fun {found ahead _ _} looked taken_eq => ?_
  obtain ⟨rfl, -⟩ := taken_eq
  dsimp only
  split
  · rename_i form _
    exact (statementOf_takes grammar ahead form).since looked _ id
  · refine Outcome.Takes.since ?_ looked _ id
    exact (expression_takes grammar ahead .lowest).map id

/-- A program that is read keeps all the tokens of its stream. -/
theorem program_takes (grammar : Grammar) (stream : TokenStream) :
    (program grammar stream).Takes (fun program _ => ∃ tokens, stream.tokens = .ok tokens ∧
      program.flatten = tokens.filter Token.isKept) := by
  rw [program]
  refine (current_takes stream).elim .failed fun {found ahead _ _} looked shown => ?_
  obtain ⟨rfl, ended⟩ := shown
  cases found with
  | none => exact .done looked ⟨[], ended rfl, rfl⟩
  | some _ =>
      dsimp only
      refine (statement_takes grammar ahead).elim .failed
        fun {first behind _ front} offers made => ?_
      dsimp only
      refine (current_takes behind).elim .failed fun {found next _ _} lookedOn shown => ?_
      obtain ⟨rfl, ended⟩ := shown
      cases found with
      | none =>
          refine .done ((looked.trans offers).trans lookedOn) ⟨front, ?_, ?_⟩
          · simpa using (looked.trans offers).tokens_eq_ok (ended rfl)
          · simp [Program.flatten, made.2]
      | some _ =>
          dsimp only
          refine (expect_takes next _ (by rintro ⟨⟩)).elim .failed
            fun {_ rest _ _} closing taken_eq => ?_
          obtain rfl := taken_eq
          have taken := ((looked.trans offers).trans lookedOn).trans closing
          dsimp only
          refine (program_takes grammar rest).elim .failed fun {others _ _ _} behindAll kept => ?_
          obtain ⟨tokens, tokens_eq, others_eq⟩ := kept
          refine .done (taken.trans behindAll) ⟨_, taken.tokens_eq_ok tokens_eq, ?_⟩
          rw [Program.flatten, List.flatMap_cons, ← Program.flatten, others_eq, made.2]
          simp [Token.isKept]
termination_by stream.size

/-- Whatever the grammar registers, reading a program ends, at no greater depth than is linear in the
length of the text.  Every statement, atom and operation that is read meanwhile takes a token at least,
and a program that is read keeps all tokens of the text in order but for parentheses and
terminators. -/
theorem program_conserves_tokens (grammar : Grammar) :
    (∀ source depth, 2 * source.length + 2 < depth →
      (programWithin grammar depth).run (TokenStream.ofSource source) =
        (program grammar (TokenStream.ofSource source)).settled) ∧
    (∀ stream,
      (statement grammar stream).Takes (fun _ taken => taken ≠ []) ∧
      (∀ form, (statementOf grammar stream form).Takes (fun _ taken => taken ≠ [])) ∧
      (∀ form, (atom grammar stream form).Takes (fun _ taken => taken ≠ [])) ∧
      ∀ form left power,
        (operation grammar stream form left power).Takes (fun _ taken => taken ≠ [])) ∧
    ∀ source read, (program grammar (TokenStream.ofSource source)).result = .ok read →
      ∃ tokens, tokenize source = .ok tokens ∧ read.flatten = tokens.filter Token.isKept := by
  refine ⟨fun source depth sufficient => ?_, fun stream => ⟨?_, fun form => ?_, fun form => ?_,
    fun form left power => ?_⟩, fun source read result_eq => ?_⟩
  · have size_eq : (TokenStream.ofSource source).size = source.length := by
      simp [TokenStream.size, TokenStream.ofSource, Reader.ofText, String.length_toList]
    exact programWithin_settles grammar depth _ (by omega)
  · exact (statement_takes grammar stream).weaken And.left
  · exact (statementOf_takes grammar stream form).weaken And.left
  · exact (atom_takes grammar stream form).weaken And.left
  · exact (operation_takes grammar stream form left power).weaken And.left
  · revert result_eq
    refine (program_takes grammar (TokenStream.ofSource source)).elim ?_ ?_
    · rintro _ _ ⟨⟩
    · rintro _ _ _ _ - kept ⟨⟩
      exact kept

/-- A grammar in which an assignment binds as strongly as a product, a declaration is taken for a print
statement and groups stand for literals of decimal numbers. -/
def misregistered : Grammar :=
  ((Grammar.standard.withOperator .assign .multiplicative .assignment).withStatement
    (.declare .integer) .print).withAtom .decimal .group

/-- Under such a grammar a sum may start with an assignment. -/
theorem program_conserves_tokens_misregistered :
    (programWithin misregistered 100).run (TokenStream.ofSource "a = (1) + 2! b") =
        (program misregistered (TokenStream.ofSource "a = (1) + 2! b")).settled ∧
      (operation misregistered (TokenStream.ofSource "= 1") .assignment (.identifier "a")
        .additive).Takes (fun _ taken => taken ≠ []) ∧
      ∃ tokens, tokenize "a = (1) + 2! b" = .ok tokens ∧
        Program.flatten [.expression (.binary .add (.assignment "a" (.integer 1)) (.integer 2)),
          .expression (.identifier "b")] = tokens.filter Token.isKept := by
  obtain ⟨ends, takes, keeps⟩ := program_conserves_tokens misregistered
  have read : ((programWithin misregistered 100).run (TokenStream.ofSource "a = (1) + 2! b")).map
      Prod.fst = some (.ok [.expression (.binary .add (.assignment "a" (.integer 1)) (.integer 2)),
        .expression (.identifier "b")]) := by
    cbv
  have settles := ends "a = (1) + 2! b" 100 (by decide)
  rw [settles] at read
  exact ⟨settles, (takes _).2.2.2 _ _ _, keeps _ _ (Option.some.inj read)⟩

end Reading
end Luso
