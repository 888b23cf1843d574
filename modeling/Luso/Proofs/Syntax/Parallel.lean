import Luso.Proofs.Syntax.Streams
import Luso.Proofs.Token.Splitting

/-!
# Readings side by side

What is read depends on the tokens of a stream only, and the places in its errors are places of these
tokens.  Two streams stand abreast if both are in front of the same token of two feeds with the same
tokens; every reading keeps them abreast, gives both the same value or fails for both in the same way,
at places of the same token.  A reading beside itself shows at which places it can fail.
-/

namespace Luso

/-- Two feeds hand out the same tokens, and both texts end, or both break off. -/
structure Feed.Alike (first second : Feed) : Prop where
  tokens_eq : first.tokens = second.tokens
  endings : (∃ place place', first.ending = .finished place ∧ second.ending = .finished place') ∨
    ∃ error error', first.ending = .broken error ∧ second.ending = .broken error'

/-- Two errors differ at most in their places, and these belong to the same token of the two feeds, or
to their ends. -/
inductive ParseError.Correspond (first second : Feed) : ParseError → ParseError → Prop where
  | lexical {error error'} :
      first.ending = .broken error → second.ending = .broken error' →
      Correspond first second (.lexical error) (.lexical error')
  | unexpectedToken {expected found place place'} {index : Nat} :
      first.placed[index]? = some (found, place) → second.placed[index]? = some (found, place') →
      Correspond first second (.syntactic (.unexpectedToken expected found place))
        (.syntactic (.unexpectedToken expected found place'))
  | unexpectedEnd {expected place place'} :
      first.ending = .finished place → second.ending = .finished place' →
      Correspond first second (.syntactic (.unexpectedEnd expected place))
        (.syntactic (.unexpectedEnd expected place'))
  | invalidAssignee {token place place'} {index : Nat} :
      first.placed[index]? = some (token, place) → second.placed[index]? = some (token, place') →
      Correspond first second (.syntactic (.invalidAssignee place))
        (.syntactic (.invalidAssignee place'))

/-- Two streams stand in front of the same token of two feeds. -/
def TokenStream.Abreast (first second : Feed) (stream stream' : TokenStream) : Prop :=
  ∃ index, stream.feed = first.drop index ∧ stream'.feed = second.drop index

/-- What both streams have looked at last, and that they know its place in their feeds. -/
inductive TokenStream.Seen (first second : Feed) (stream stream' : TokenStream) :
    Option Token → Prop where
  | token {token} {index : Nat} :
      first.placed[index]? = some (token, stream.tokenStart) →
      second.placed[index]? = some (token, stream'.tokenStart) →
      Seen first second stream stream' (some token)
  | ended :
      first.ending = .finished stream.tokenStart → second.ending = .finished stream'.tokenStart →
      Seen first second stream stream' none

/-- Two outcomes are the same value with streams that are abreast again, or corresponding errors.  The
value may say what was looked at last. -/
inductive Outcome.Twin (first second : Feed) {α : Type} (seen : α → Option (Option Token))
    {least : Nat} {start start' : TokenStream} :
    Outcome α least start → Outcome α least start' → Prop where
  | done {value after after' used used'} :
      after.Abreast first second after' →
      (∀ token ∈ seen value, after.Seen first second after' token) →
      Twin first second seen (.done value after used) (.done value after' used')
  | failed {error error' after after'} :
      ParseError.Correspond first second error error' →
      Twin first second seen (.failed error after) (.failed error' after')

theorem TokenStream.Abreast.of_feed_eq {first second : Feed}
    {stream stream' ahead ahead' : TokenStream} (abreast : stream.Abreast first second stream')
    (ahead_eq : ahead.feed = stream.feed) (ahead_eq' : ahead'.feed = stream'.feed) :
    ahead.Abreast first second ahead' := by
  obtain ⟨index, feed_eq, feed_eq'⟩ := abreast
  exact ⟨index, ahead_eq.trans feed_eq, ahead_eq'.trans feed_eq'⟩

/-! ## What two streams are in front of -/

/-- The feeds of two streams that stand abreast. -/
inductive TokenStream.Fronts (first second : Feed) (stream stream' : TokenStream) : Prop where
  | token {token place place'} {index : Nat} :
      first.placed[index]? = some (token, place) → second.placed[index]? = some (token, place') →
      stream.feed = (first.drop (index + 1)).cons token place →
      stream'.feed = (second.drop (index + 1)).cons token place' →
      Fronts first second stream stream'
  | finished {place place'} :
      first.ending = .finished place → second.ending = .finished place' →
      stream.feed = { placed := [], ending := .finished place } →
      stream'.feed = { placed := [], ending := .finished place' } →
      Fronts first second stream stream'
  | broken {error error'} :
      first.ending = .broken error → second.ending = .broken error' →
      stream.feed = { placed := [], ending := .broken error } →
      stream'.feed = { placed := [], ending := .broken error' } →
      Fronts first second stream stream'

theorem Feed.drop_of_getElem?_eq_some {feed : Feed} {index : Nat} {token : Token}
    {place : Position} (here : feed.placed[index]? = some (token, place)) :
    feed.drop index = (feed.drop (index + 1)).cons token place := by
  rw [drop, drop, cons, List.drop_eq_getElem?_toList_append, here]
  rfl

theorem Feed.drop_of_getElem?_eq_none {feed : Feed} {index : Nat}
    (nothing : feed.placed[index]? = none) :
    feed.drop index = { placed := [], ending := feed.ending } := by
  rw [drop, List.drop_eq_nil_of_le (List.getElem?_eq_none_iff.mp nothing)]

theorem TokenStream.Abreast.fronts {first second : Feed} {stream stream' : TokenStream}
    (alike : first.Alike second) (abreast : stream.Abreast first second stream') :
    stream.Fronts first second stream' := by
  obtain ⟨index, feed_eq, feed_eq'⟩ := abreast
  -- The tokens are the same, so both feeds have one at this index, or both are at their ends.
  have same : first.placed[index]?.map Prod.fst = second.placed[index]?.map Prod.fst := by
    rw [← List.getElem?_map, ← List.getElem?_map]
    exact congrArg (·[index]?) alike.tokens_eq
  cases here : first.placed[index]? with
  | some found =>
      cases here' : second.placed[index]? with
      | some found' =>
          obtain ⟨token, place⟩ := found
          obtain ⟨token', place'⟩ := found'
          obtain rfl : token = token' := by simpa [here, here'] using same
          rw [Feed.drop_of_getElem?_eq_some here] at feed_eq
          rw [Feed.drop_of_getElem?_eq_some here'] at feed_eq'
          exact .token here here' feed_eq feed_eq'
      | none => simp [here, here'] at same
  | none =>
      have here' : second.placed[index]? = none := by simpa [here] using same.symm
      rw [Feed.drop_of_getElem?_eq_none here] at feed_eq
      rw [Feed.drop_of_getElem?_eq_none here'] at feed_eq'
      rcases alike.endings with ⟨place, place', ending, ending'⟩ | ⟨error, error', ending, ending'⟩
      · exact .finished ending ending' (ending ▸ feed_eq) (ending' ▸ feed_eq')
      · exact .broken ending ending' (ending ▸ feed_eq) (ending' ▸ feed_eq')

namespace TokenStream.Seen

variable {first second : Feed} {stream stream' : TokenStream} {token : Token}

theorem unexpectedToken (seen : stream.Seen first second stream' (some token))
    (expected : Expectation) :
    ParseError.Correspond first second (Reading.unexpectedToken stream expected token)
      (Reading.unexpectedToken stream' expected token) := by
  cases seen with
  | token here here' => exact .unexpectedToken here here'

theorem unexpectedEnd (seen : stream.Seen first second stream' none) (expected : Expectation) :
    ParseError.Correspond first second (Reading.unexpectedEnd stream expected)
      (Reading.unexpectedEnd stream' expected) := by
  cases seen with
  | ended ending ending' => exact .unexpectedEnd ending ending'

theorem invalidAssignee (seen : stream.Seen first second stream' (some token)) :
    ParseError.Correspond first second (.syntactic (.invalidAssignee stream.tokenStart))
      (.syntactic (.invalidAssignee stream'.tokenStart)) := by
  cases seen with
  | token here here' => exact .invalidAssignee here here'

end TokenStream.Seen

namespace Outcome.Twin

variable {first second : Feed} {α : Type} {seen : α → Option (Option Token)} {least : Nat}
  {start start' : TokenStream} {outcome : Outcome α least start}
  {outcome' : Outcome α least start'}

theorem plain (twin : outcome.Twin first second seen outcome') :
    outcome.Twin first second (fun _ => none) outcome' := by
  cases twin with
  | failed correspond => exact .failed correspond
  | done abreast _ => exact .done abreast (by rintro _ ⟨⟩)

theorem since {total : Nat} {earlier earlier' : TokenStream}
    (twin : outcome.Twin first second seen outcome')
    (used : start.size + total ≤ earlier.size + least)
    (used' : start'.size + total ≤ earlier'.size + least) :
    (outcome.since used).Twin first second seen (outcome'.since used') := by
  cases twin with
  | failed correspond => exact .failed correspond
  | done abreast seen => exact .done abreast seen

theorem map {β : Type} (twin : outcome.Twin first second seen outcome') (change : α → β) :
    (outcome.map change).Twin first second (fun _ => none) (outcome'.map change) := by
  cases twin with
  | failed correspond => exact .failed correspond
  | done abreast _ => exact .done abreast (by rintro _ ⟨⟩)

/-- Nothing was looked at last. -/
theorem reached {value : α} {after after' : TokenStream} {used used'}
    (abreast : after.Abreast first second after') :
    Outcome.Twin first second (fun _ => none)
      (.done value after used : Outcome α least start)
      (.done value after' used' : Outcome α least start') :=
  .done abreast (by rintro _ ⟨⟩)

/-- What is done next with two outcomes is the same if it is the same with corresponding errors and
with a value and streams that are abreast. -/
@[elab_as_elim]
theorem elim {motive : Outcome α least start → Outcome α least start' → Prop}
    (twin : outcome.Twin first second seen outcome')
    (failed : ∀ {error error'} {after after' : TokenStream},
      ParseError.Correspond first second error error' →
      motive (.failed error after) (.failed error' after'))
    (done : ∀ {value} {after after' : TokenStream} {used used'},
      after.Abreast first second after' →
      (∀ token ∈ seen value, after.Seen first second after' token) →
      motive (.done value after used) (.done value after' used')) :
    motive outcome outcome' := by
  cases twin with
  | failed correspond => exact failed correspond
  | done abreast seen => exact done abreast seen

end Outcome.Twin

namespace Reading

variable {first second : Feed} {stream stream' : TokenStream}

/-! ## Single tokens -/

theorem current_twin (alike : first.Alike second) (abreast : stream.Abreast first second stream') :
    (current stream).Twin first second some (current stream') := by
  cases abreast.fronts alike with
  | token here here' feed_eq feed_eq' =>
      obtain ⟨ahead, used, current_eq, ahead_eq, rfl⟩ := current_of_feed_cons feed_eq
      obtain ⟨ahead', used', current_eq', ahead_eq', rfl⟩ := current_of_feed_cons feed_eq'
      rw [current_eq, current_eq']
      refine .done (abreast.of_feed_eq ahead_eq ahead_eq') ?_
      rintro _ ⟨⟩
      exact .token here here'
  | finished ending ending' feed_eq feed_eq' =>
      obtain ⟨ahead, used, current_eq, ahead_eq, rfl⟩ := current_of_feed_finished feed_eq
      obtain ⟨ahead', used', current_eq', ahead_eq', rfl⟩ := current_of_feed_finished feed_eq'
      rw [current_eq, current_eq']
      refine .done (abreast.of_feed_eq ahead_eq ahead_eq') ?_
      rintro _ ⟨⟩
      exact .ended ending ending'
  | broken ending ending' feed_eq feed_eq' =>
      obtain ⟨after, current_eq⟩ := current_of_feed_broken feed_eq
      obtain ⟨after', current_eq'⟩ := current_of_feed_broken feed_eq'
      rw [current_eq, current_eq']
      exact .failed (.lexical ending ending')

theorem advance_twin (alike : first.Alike second) (abreast : stream.Abreast first second stream')
    (expected : Expectation) :
    (advance stream expected).Twin first second (fun token => some (some token))
      (advance stream' expected) := by
  cases abreast.fronts alike with
  | @token _ _ _ index here here' feed_eq feed_eq' =>
      obtain ⟨after, used, advance_eq, rest_eq, rfl⟩ := advance_of_feed_cons expected feed_eq
      obtain ⟨after', used', advance_eq', rest_eq', rfl⟩ := advance_of_feed_cons expected feed_eq'
      rw [advance_eq, advance_eq']
      refine .done ⟨index + 1, rest_eq, rest_eq'⟩ ?_
      rintro _ ⟨⟩
      exact .token here here'
  | finished ending ending' feed_eq feed_eq' =>
      obtain ⟨after, advance_eq, rfl⟩ := advance_of_feed_finished expected feed_eq
      obtain ⟨after', advance_eq', rfl⟩ := advance_of_feed_finished expected feed_eq'
      rw [advance_eq, advance_eq']
      exact .failed (.unexpectedEnd ending ending')
  | broken ending ending' feed_eq feed_eq' =>
      obtain ⟨after, advance_eq⟩ := advance_of_feed_broken expected feed_eq
      obtain ⟨after', advance_eq'⟩ := advance_of_feed_broken expected feed_eq'
      rw [advance_eq, advance_eq']
      exact .failed (.lexical ending ending')

theorem expectAs_twin (alike : first.Alike second) (abreast : stream.Abreast first second stream')
    (token : Token) (expected : Expectation) :
    (expectAs stream token expected).Twin first second (fun _ => none)
      (expectAs stream' token expected) := by
  rw [expectAs, expectAs]
  refine (current_twin alike abreast).elim .failed fun {found _ _ _ _} abreast seen => ?_
  cases found with
  | none => exact .failed ((seen none rfl).unexpectedEnd expected)
  | some found =>
      dsimp only
      split
      · exact (advance_twin alike abreast expected).plain.since _ _
      · exact .failed ((seen (some found) rfl).unexpectedToken expected)

theorem expect_twin (alike : first.Alike second) (abreast : stream.Abreast first second stream')
    (token : Token) :
    (expect stream token).Twin first second (fun _ => none) (expect stream' token) :=
  expectAs_twin alike abreast token _

theorem isCurrent_twin (alike : first.Alike second)
    (abreast : stream.Abreast first second stream') (token : Token) :
    (isCurrent stream token).Twin first second (fun _ => none) (isCurrent stream' token) :=
  (current_twin alike abreast).map _

theorem primary_twin (alike : first.Alike second) (abreast : stream.Abreast first second stream') :
    (primary stream).Twin first second (fun _ => none) (primary stream') := by
  rw [primary, primary]
  refine (advance_twin alike abreast _).elim .failed fun {token _ _ _ _} abreast seen => ?_
  cases token with
  | integer | decimal | identifier => exact .reached abreast
  | _ => exact .failed ((seen (some _) rfl).unexpectedToken .atom)

/-! ## Expressions -/

mutual

theorem expression_twin (alike : first.Alike second) (grammar : Grammar)
    (stream stream' : TokenStream) (power : BindingPower)
    (abreast : stream.Abreast first second stream') :
    (expression grammar stream power).Twin first second (fun _ => none)
      (expression grammar stream' power) := by
  rw [expression, expression]
  refine (current_twin alike abreast).elim .failed fun {found ahead ahead' _ _} abreast seen => ?_
  cases found with
  | none => exact .failed ((seen none rfl).unexpectedEnd .atom)
  | some token =>
      dsimp only
      split
      · exact .failed ((seen (some token) rfl).unexpectedToken .atom)
      · rename_i form _
        refine (atom_twin alike grammar ahead ahead' form abreast).elim .failed
          fun {left after after' _ _} abreast _ => ?_
        exact (climb_twin alike grammar after after' left power abreast).since _ _
termination_by 2 * stream.size + 1

theorem climb_twin (alike : first.Alike second) (grammar : Grammar)
    (stream stream' : TokenStream) (left : Expression) (power : BindingPower)
    (abreast : stream.Abreast first second stream') :
    (climb grammar stream left power).Twin first second (fun _ => none)
      (climb grammar stream' left power) := by
  rw [climb, climb]
  refine (current_twin alike abreast).elim .failed fun {found ahead ahead' _ _} abreast seen => ?_
  rcases found with _ | (_ | _ | _ | _ | sign | _)
  case some.operator =>
    dsimp only
    split
    · exact .reached abreast
    · rename_i own form _
      split
      · have seen := seen (some (.operator sign)) rfl
        refine (operation_twin alike grammar ahead ahead' form left own abreast seen).elim .failed
          fun {whole after after' _ _} abreast _ => ?_
        exact (climb_twin alike grammar after after' whole power abreast).since _ _
      · exact .reached abreast
  all_goals exact .reached abreast
termination_by 2 * stream.size + 1

theorem atom_twin (alike : first.Alike second) (grammar : Grammar)
    (stream stream' : TokenStream) (form : AtomForm)
    (abreast : stream.Abreast first second stream') :
    (atom grammar stream form).Twin first second (fun _ => none) (atom grammar stream' form) := by
  cases form with
  | primary =>
      rw [atom, atom]
      exact primary_twin alike abreast
  | group =>
      rw [atom, atom]
      refine (expectAs_twin alike abreast _ _).elim .failed
        fun {_ inside inside' _ _} abreast _ => ?_
      dsimp only
      refine (expression_twin alike grammar inside inside' _ abreast).elim .failed
        fun abreast _ => ?_
      dsimp only
      exact (expect_twin alike abreast _).elim .failed fun abreast _ => .reached abreast
termination_by 2 * stream.size

/-- The sign is what was looked at last; so its place is known if its left side is refused. -/
theorem operation_twin (alike : first.Alike second) (grammar : Grammar)
    (stream stream' : TokenStream) (form : OperatorForm) (left : Expression)
    (power : BindingPower) (abreast : stream.Abreast first second stream') {token : Token}
    (seen : stream.Seen first second stream' (some token)) :
    (operation grammar stream form left power).Twin first second (fun _ => none)
      (operation grammar stream' form left power) := by
  cases form with
  | binary =>
      rw [operation, operation]
      refine (advance_twin alike abreast _).elim .failed
        fun {found behind behind' _ _} abreast seen => ?_
      rcases found with _ | _ | _ | _ | (sign | _) | _
      case operator.arithmetic =>
        dsimp only
        exact (expression_twin alike grammar behind behind' power abreast).elim .failed
          fun abreast _ => .reached abreast
      all_goals exact .failed ((seen (some _) rfl).unexpectedToken .arithmetic)
  | assignment =>
      rw [operation, operation]
      refine (expect_twin alike abreast _).elim .failed
        fun {_ behind behind' _ _} abreast _ => ?_
      dsimp only
      refine (expression_twin alike grammar behind behind' power abreast).elim .failed
        fun abreast _ => ?_
      -- The error is about the stream in front of the sign, not about the one reached.
      cases left with
      | identifier name => exact .reached abreast
      | _ => exact .failed seen.invalidAssignee
termination_by 2 * stream.size

end

/-! ## Statements and programs -/

theorem printing_twin (alike : first.Alike second) (grammar : Grammar)
    (abreast : stream.Abreast first second stream') :
    (printing grammar stream).Twin first second (fun _ => none) (printing grammar stream') := by
  rw [printing, printing]
  refine (expect_twin alike abreast _).elim .failed fun abreast _ => ?_
  dsimp only
  refine (expect_twin alike abreast _).elim .failed fun abreast _ => ?_
  dsimp only
  refine (expression_twin alike grammar _ _ _ abreast).elim .failed fun abreast _ => ?_
  dsimp only
  exact (expect_twin alike abreast _).elim .failed fun abreast _ => .reached abreast

theorem declaration_twin (alike : first.Alike second) (grammar : Grammar)
    (abreast : stream.Abreast first second stream') :
    (declaration grammar stream).Twin first second (fun _ => none)
      (declaration grammar stream') := by
  rw [declaration, declaration]
  refine (advance_twin alike abreast _).elim .failed fun {word _ _ _ _} abreast seen => ?_
  rcases word with (type | _) | _ | _ | _ | _ | _
  case keyword.declare =>
    dsimp only
    refine (advance_twin alike abreast _).elim .failed fun {name _ _ _ _} abreast seen => ?_
    cases name with
    | identifier name =>
        dsimp only
        refine (isCurrent_twin alike abreast _).elim .failed fun {met _ _ _ _} abreast _ => ?_
        cases met with
        | true => exact .reached abreast
        | false =>
            dsimp only
            refine (expect_twin alike abreast _).elim .failed fun abreast _ => ?_
            dsimp only
            exact (expression_twin alike grammar _ _ _ abreast).elim .failed
              fun abreast _ => .reached abreast
    | _ => exact .failed ((seen (some _) rfl).unexpectedToken (.kind .identifier))
  all_goals exact .failed ((seen (some _) rfl).unexpectedToken .declaringWord)

theorem statement_twin (alike : first.Alike second) (grammar : Grammar)
    (abreast : stream.Abreast first second stream') :
    (statement grammar stream).Twin first second (fun _ => none) (statement grammar stream') := by
  rw [statement, statement]
  refine (current_twin alike abreast).elim .failed fun abreast _ => ?_
  dsimp only
  split
  · rename_i form _
    cases form with
    | declaration => exact (declaration_twin alike grammar abreast).since _ _
    | print => exact (printing_twin alike grammar abreast).since _ _
  · exact ((expression_twin alike grammar _ _ _ abreast).map _).since _ _

/-- A program is read up to the end, which was looked at last. -/
theorem program_twin (alike : first.Alike second) (grammar : Grammar)
    (stream stream' : TokenStream) (abreast : stream.Abreast first second stream') :
    (program grammar stream).Twin first second (fun _ => some none)
      (program grammar stream') := by
  rw [program, program]
  refine (current_twin alike abreast).elim .failed fun {found _ _ _ _} abreast seen => ?_
  cases found with
  | none => exact .done abreast fun _ ended => seen _ ended
  | some _ =>
      dsimp only
      refine (statement_twin alike grammar abreast).elim .failed fun abreast _ => ?_
      dsimp only
      refine (current_twin alike abreast).elim .failed fun {found _ _ _ _} abreast seen => ?_
      cases found with
      | none => exact .done abreast fun _ ended => seen _ ended
      | some _ =>
          dsimp only
          refine (expect_twin alike abreast _).elim .failed
            fun {_ rest rest' _ _} abreast _ => ?_
          dsimp only
          exact (program_twin alike grammar rest rest' abreast).elim .failed
            fun abreast seen => .done abreast seen
termination_by stream.size

end Reading

/-! ## Source texts -/

theorem Feed.Alike.refl (feed : Feed) : feed.Alike feed := by
  refine ⟨rfl, ?_⟩
  cases feed.ending with
  | finished place => exact .inl ⟨place, place, rfl, rfl⟩
  | broken error => exact .inr ⟨error, error, rfl, rfl⟩

/-- Two texts that feed the same tokens are read as the same program, up to their ends, or their
errors correspond. -/
theorem parse_of_alike {source source' : String} (alike : (feedOf source).Alike (feedOf source')) :
    (∃ program place, parse source = .ok program ∧ parse source' = .ok program ∧
      (feedOf source).ending = .finished place) ∨
    ∃ error error', parse source = .error error ∧ parse source' = .error error' ∧
      ParseError.Correspond (feedOf source) (feedOf source') error error' := by
  rw [parse, parse]
  refine (Reading.program_twin alike .standard _ _ ⟨0, rfl, rfl⟩).elim
    (fun {error error' _ _} correspond => .inr ⟨error, error', rfl, rfl, correspond⟩)
    fun {program _ _ _ _} _ seen => .inl ⟨program, ?_⟩
  cases seen none rfl with
  | ended ending _ => exact ⟨_, rfl, rfl, ending⟩

/-- Reading a text token by token agrees with splitting all of it first.  If it cannot be split, then
it is not read either, and the error is the one of splitting or stands at a token before it.  If it
can, then reading does not meet such an error, and it depends on the tokens only: other places of the
same tokens change nothing but the place in an error, which is the one of the same token or of the
end. -/
theorem parse_agrees_with_tokenize :
    (∀ source error, tokenize source = .error error →
      parse source = .error (.lexical error) ∨
      (∃ expected found place,
        parse source = .error (.syntactic (.unexpectedToken expected found place)) ∧
        place < error.position) ∨
      ∃ place, parse source = .error (.syntactic (.invalidAssignee place)) ∧
        place < error.position) ∧
    (∀ source tokens, tokenize source = .ok tokens →
      ∀ error, parse source ≠ .error (.lexical error)) ∧
    ∀ source source' tokens, tokenize source = .ok tokens → tokenize source' = .ok tokens →
      (∃ program, parse source = .ok program ∧ parse source' = .ok program) ∨
      ∃ error error', parse source = .error error ∧ parse source' = .error error' ∧
        ParseError.Correspond (feedOf source) (feedOf source') error error' := by
  simp only [tokenize_eq_result_feedOf, Feed.result_eq_error_iff, Feed.result_eq_ok_iff]
  refine ⟨fun source error broken => ?_, fun source tokens split error read => ?_,
    fun source source' tokens split split' => ?_⟩
  · have before {index : Nat} {found place}
        (here : (feedOf source).placed[index]? = some (found, place)) : place < error.position :=
      (feedOf_reports source).lt_of_broken broken (List.mem_of_getElem? here)
    rcases parse_of_alike (.refl (feedOf source)) with
      ⟨program, place, -, -, finished⟩ | ⟨met, _, parse_eq, -, correspond⟩
    · cases broken.symm.trans finished
    · rw [parse_eq]
      cases correspond with
      | lexical ending _ =>
          cases broken.symm.trans ending
          exact .inl rfl
      | unexpectedToken here _ => exact .inr (.inl ⟨_, _, _, rfl, before here⟩)
      | unexpectedEnd ending _ => cases broken.symm.trans ending
      | invalidAssignee here _ => exact .inr (.inr ⟨_, rfl, before here⟩)
  · obtain ⟨-, place, finished⟩ := split
    rcases parse_of_alike (.refl (feedOf source)) with
      ⟨program, _, parse_eq, -, -⟩ | ⟨met, _, parse_eq, -, correspond⟩
    · cases read.symm.trans parse_eq
    · cases read.symm.trans parse_eq
      cases correspond with
      | lexical ending _ => cases finished.symm.trans ending
  · obtain ⟨tokens_eq, place, finished⟩ := split
    obtain ⟨tokens_eq', place', finished'⟩ := split'
    have alike : (feedOf source).Alike (feedOf source') :=
      ⟨tokens_eq.trans tokens_eq'.symm, .inl ⟨place, place', finished, finished'⟩⟩
    rcases parse_of_alike alike with ⟨program, _, parse_eq, parse_eq', -⟩ | failed
    · exact .inl ⟨program, parse_eq, parse_eq'⟩
    · exact .inr failed

/-- An empty group is refused on one line and on two, and a terminator is refused before the sign
behind it, which cannot be read. -/
theorem parse_refusedEarly :
    (∃ error error', parse "()" = .error error ∧ parse "(\n)" = .error error' ∧
      ParseError.Correspond (feedOf "()") (feedOf "(\n)") error error') ∧
    (∀ error, parse "()" ≠ .error (.lexical error)) ∧
    ∃ expected found place,
      parse "!@" = .error (.syntactic (.unexpectedToken expected found place)) ∧
      place < { line := 1, column := 1 } := by
  obtain ⟨oneLine, twoLines, broken, atParen, atMark⟩ :
      tokenize "()" = .ok [.punctuation .openParen, .punctuation .closeParen] ∧
      tokenize "(\n)" = .ok [.punctuation .openParen, .punctuation .closeParen] ∧
      tokenize "!@" = .error (.unrecognisedCharacter '@' { line := 1, column := 1 }) ∧
      parse "()" = .error (.syntactic (.unexpectedToken .atom (.punctuation .closeParen)
        { line := 1, column := 1 })) ∧
      parse "!@" = .error (.syntactic (.unexpectedToken .atom (.punctuation .terminator)
        { line := 1, column := 0 })) := by
    refine ⟨?_, ?_, ?_, ?_, ?_⟩ <;> cbv
  obtain ⟨interrupted, unharmed, sameTokens⟩ := parse_agrees_with_tokenize
  refine ⟨?_, unharmed _ _ oneLine, ?_⟩
  · rcases sameTokens _ _ _ oneLine twoLines with ⟨program, parsed, -⟩ | failed
    · cases parsed.symm.trans atParen
    · exact failed
  · rcases interrupted _ _ broken with parsed | earlier | ⟨_, parsed, -⟩
    · cases parsed.symm.trans atMark
    · exact earlier
    · cases parsed.symm.trans atMark

end Luso
