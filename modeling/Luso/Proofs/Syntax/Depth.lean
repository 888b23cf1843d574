import Luso.Syntax.Reading

/-!
# How deeply a reading nests

A reading that may nest only to a given depth follows the same steps and needs no reason to end: it
gives up where the depth does not suffice.  Every step takes something off the stream before the same
construct is read again; so a depth that is linear in what the stream can still hand out suffices,
whatever the grammar is, and what is read then is what the unlimited reading reads.
-/

namespace Luso

/-- A reading that may give up. -/
structure Attempt (α : Type) where
  /-- What is read from a stream, or why nothing is, and the stream that is left; `none` if the reading
  gives up. -/
  run : TokenStream → Option (Except ParseError α × TokenStream)

/-- The outcome of a reading that did not give up. -/
def Outcome.settled {α : Type} {least : Nat} {start : TokenStream} (outcome : Outcome α least start) :
    Option (Except ParseError α × TokenStream) :=
  some (outcome.result, outcome.after)

/-- What comes of going on with what was read. -/
def Outcome.followedBy {α β : Type} {least : Nat} {start : TokenStream}
    (outcome : Outcome α least start) (next : α → Attempt β) :
    Option (Except ParseError β × TokenStream) :=
  match outcome with
  | .failed error after => some (.error error, after)
  | .done value after _ => (next value).run after

namespace Attempt

instance : Monad Attempt where
  pure value := { run := fun stream => some (.ok value, stream) }
  bind first next :=
    { run := fun stream =>
        match first.run stream with
        | none => none
        | some (.error error, after) => some (.error error, after)
        | some (.ok value, after) => (next value).run after }

/-- Give up. -/
def giveUp {α : Type} : Attempt α :=
  { run := fun _ => none }

/-- Fail with an error about the stream. -/
def refuse {α : Type} (error : TokenStream → ParseError) : Attempt α :=
  { run := fun stream => some (.error (error stream), stream) }

/-- A reading that nests to no depth. -/
def flat {α : Type} {least : Nat} (reading : (stream : TokenStream) → Outcome α least stream) :
    Attempt α :=
  { run := fun stream => (reading stream).settled }

/-- The place of the token looked for last. -/
def place : Attempt Position :=
  { run := fun stream => some (.ok stream.tokenStart, stream) }

/-- What comes next depends on what came of the first reading. -/
theorem bind_run {α β : Type} {least : Nat} {stream : TokenStream} {first : Attempt α}
    {outcome : Outcome α least stream} (settles : first.run stream = outcome.settled)
    (next : α → Attempt β) : (first >>= next).run stream = outcome.followedBy next := by
  simp only [bind, settles]
  cases outcome <;> rfl

theorem flat_bind_run {α β : Type} {least : Nat} (stream : TokenStream)
    (reading : (stream : TokenStream) → Outcome α least stream) (next : α → Attempt β) :
    (flat reading >>= next).run stream = (reading stream).followedBy next :=
  bind_run rfl next

end Attempt

namespace Reading

open Attempt

mutual

/-- An expression that nests at most to the given depth. -/
def expressionWithin (grammar : Grammar) : Nat → BindingPower → Attempt Expression
  | 0, _ => giveUp
  | depth + 1, power => do
      match ← flat current with
      | none => refuse (unexpectedEnd · .atom)
      | some token =>
          match grammar.atom token.kind with
          | none => refuse (unexpectedToken · .atom token)
          | some form => do
              let left ← atomWithin grammar depth form
              climbWithin grammar depth left power

/-- The operators that continue `left`, as far as the depth suffices. -/
def climbWithin (grammar : Grammar) : Nat → Expression → BindingPower → Attempt Expression
  | 0, _, _ => giveUp
  | depth + 1, left, power => do
      match ← flat current with
      | some (.operator sign) =>
          match grammar.operator sign with
          | none => pure left
          | some (own, form) =>
              if sign.binds own power then do
                let whole ← operationWithin grammar depth form left own
                climbWithin grammar depth whole power
              else
                pure left
      | _ => pure left

/-- An atom that nests at most to the given depth. -/
def atomWithin (grammar : Grammar) : Nat → AtomForm → Attempt Expression
  | 0, _ => giveUp
  | _ + 1, .primary => flat primary
  | depth + 1, .group => do
      let _ ← flat (expectAs · (.punctuation .openParen) .atom)
      let value ← expressionWithin grammar depth .lowest
      let _ ← flat (expect · (.punctuation .closeParen))
      pure value

/-- An operator and its right operand, which nests at most to the given depth. -/
def operationWithin (grammar : Grammar) :
    Nat → OperatorForm → Expression → BindingPower → Attempt Expression
  | 0, _, _, _ => giveUp
  | depth + 1, .binary, left, power => do
      let token ← flat (advance · (.kind .operator))
      match token.arithmetic? with
      | none => refuse (unexpectedToken · .arithmetic token)
      | some sign => do
          let right ← expressionWithin grammar depth power
          pure (.binary sign left right)
  | depth + 1, .assignment, left, power => do
      let sign ← place
      let _ ← flat (expect · (.operator .assign))
      let value ← expressionWithin grammar depth power
      match left with
      | .identifier name => pure (.assignment name value)
      | _ => refuse fun _ => .syntactic (.invalidAssignee sign)

end

/-- A declaration whose first value nests at most to the given depth. -/
def declarationWithin (grammar : Grammar) (depth : Nat) : Attempt Statement := do
  let token ← flat (advance · .declaringWord)
  match token.declaredType? with
  | none => refuse (unexpectedToken · .declaringWord token)
  | some type =>
      match ← flat (advance · (.kind .identifier)) with
      | .identifier name =>
          match ← flat (isCurrent · (.punctuation .terminator)) with
          | true => pure (.declaration type name none)
          | false => do
              let _ ← flat (expect · (.operator .assign))
              let value ← expressionWithin grammar depth .lowest
              pure (.declaration type name (some value))
      | other => refuse (unexpectedToken · (.kind .identifier) other)

/-- A print statement whose argument nests at most to the given depth. -/
def printingWithin (grammar : Grammar) (depth : Nat) : Attempt Statement := do
  let _ ← flat (expect · (.keyword .print))
  let _ ← flat (expect · (.punctuation .openParen))
  let argument ← expressionWithin grammar depth .lowest
  let _ ← flat (expect · (.punctuation .closeParen))
  pure (.print argument)

/-- A statement that nests at most to the given depth. -/
def statementWithin (grammar : Grammar) (depth : Nat) : Attempt Statement := do
  match statementForm? grammar (← flat current) with
  | some .declaration => declarationWithin grammar depth
  | some .print => printingWithin grammar depth
  | none => do
      let value ← expressionWithin grammar depth .lowest
      pure (.expression value)

/-- A program whose statements and what is behind them nest at most to the given depth. -/
def programWithin (grammar : Grammar) : Nat → Attempt Program
  | 0 => giveUp
  | depth + 1 => do
      match ← flat current with
      | none => pure []
      | some _ => do
          let first ← statementWithin grammar depth
          match ← flat current with
          | none => pure [first]
          | some _ => do
              let _ ← flat (expect · (.punctuation .terminator))
              let others ← programWithin grammar depth
              pure (first :: others)

/-! ## Sufficient depths -/

theorem settled_since {α : Type} {least total : Nat} {start middle : TokenStream}
    (outcome : Outcome α least middle) (used : middle.size + total ≤ start.size + least) :
    (outcome.since used).settled = outcome.settled := by
  cases outcome <;> rfl

-- By induction on the depth.  An atom or an operation may be as deep in the same stream as what it is
-- part of, but only once: what it reads next comes behind a token, which pays for two more levels.
mutual

theorem expressionWithin_settles (grammar : Grammar) (depth : Nat) (stream : TokenStream)
    (power : BindingPower) (sufficient : 2 * stream.size + 1 < depth) :
    (expressionWithin grammar depth power).run stream =
      (expression grammar stream power).settled := by
  cases depth with
  | zero => omega
  | succ depth =>
      rw [expressionWithin, expression, flat_bind_run]
      rcases current stream with ⟨_ | token, ahead, looked⟩ | ⟨error, after⟩
      · rfl
      · dsimp only [Outcome.followedBy]
        cases grammar.atom token.kind with
        | none => rfl
        | some form =>
            dsimp only [Outcome.followedBy]
            rw [bind_run (atomWithin_settles grammar depth ahead form (by omega))]
            rcases atom grammar ahead form with ⟨left, after, used⟩ | ⟨error, after⟩
            · dsimp only [Outcome.followedBy]
              rw [settled_since, climbWithin_settles grammar depth after left power (by omega)]
            · rfl
      · rfl

theorem climbWithin_settles (grammar : Grammar) (depth : Nat) (stream : TokenStream)
    (left : Expression) (power : BindingPower) (sufficient : 2 * stream.size + 1 < depth) :
    (climbWithin grammar depth left power).run stream = (climb grammar stream left power).settled := by
  cases depth with
  | zero => omega
  | succ depth =>
      rw [climbWithin, climb, flat_bind_run]
      rcases current stream with ⟨_ | (_ | _ | _ | _ | sign | _), ahead, looked⟩ | ⟨error, after⟩
      case done.some.operator =>
        dsimp only [Outcome.followedBy]
        rcases grammar.operator sign with _ | ⟨own, form⟩
        · rfl
        · dsimp only [Outcome.followedBy]
          split
          · rw [bind_run
              (operationWithin_settles grammar depth ahead form left own (by omega))]
            rcases operation grammar ahead form left own with ⟨whole, after, used⟩ | ⟨error, after⟩
            · dsimp only [Outcome.followedBy]
              rw [settled_since, climbWithin_settles grammar depth after whole power (by omega)]
            · rfl
          · rfl
      all_goals rfl

theorem atomWithin_settles (grammar : Grammar) (depth : Nat) (stream : TokenStream)
    (form : AtomForm) (sufficient : 2 * stream.size < depth) :
    (atomWithin grammar depth form).run stream = (atom grammar stream form).settled := by
  cases depth with
  | zero => omega
  | succ depth =>
      cases form with
      | primary => rw [atomWithin, atom, flat]
      | group =>
          rw [atomWithin, atom, flat_bind_run]
          rcases expectAs stream (.punctuation .openParen) .atom with
            ⟨_, inside, opened⟩ | ⟨error, after⟩
          · dsimp only [Outcome.followedBy]
            rw [bind_run
              (expressionWithin_settles grammar depth inside .lowest (by omega))]
            rcases expression grammar inside .lowest with ⟨value, behind, read⟩ | ⟨error, after⟩
            · dsimp only [Outcome.followedBy]
              rw [flat_bind_run]
              cases expect behind (.punctuation .closeParen) <;> rfl
            · rfl
          · rfl

theorem operationWithin_settles (grammar : Grammar) (depth : Nat) (stream : TokenStream)
    (form : OperatorForm) (left : Expression) (power : BindingPower)
    (sufficient : 2 * stream.size < depth) :
    (operationWithin grammar depth form left power).run stream =
      (operation grammar stream form left power).settled := by
  cases depth with
  | zero => omega
  | succ depth =>
      cases form with
      | binary =>
          rw [operationWithin, operation, flat_bind_run]
          rcases advance stream (.kind .operator) with ⟨token, behind, passed⟩ | ⟨error, after⟩
          · dsimp only [Outcome.followedBy]
            cases token.arithmetic? with
            | none => rfl
            | some sign =>
                dsimp only
                rw [bind_run (expressionWithin_settles grammar depth behind power (by omega))]
                cases expression grammar behind power <;> rfl
          · rfl
      | assignment =>
          rw [operationWithin, operation]
          change (flat (expect · (.operator .assign)) >>= _).run stream = _
          rw [flat_bind_run]
          rcases expect stream (.operator .assign) with ⟨_, behind, passed⟩ | ⟨error, after⟩
          · dsimp only [Outcome.followedBy]
            rw [bind_run (expressionWithin_settles grammar depth behind power (by omega))]
            cases expression grammar behind power with
            | failed error after => rfl
            | done value after read => cases left <;> rfl
          · rfl

end

theorem declarationWithin_settles (grammar : Grammar) (depth : Nat) (stream : TokenStream)
    (sufficient : 2 * stream.size + 1 < depth) :
    (declarationWithin grammar depth).run stream = (declaration grammar stream).settled := by
  rw [declarationWithin, declaration, flat_bind_run]
  rcases advance stream .declaringWord with ⟨token, behindType, typeRead⟩ | ⟨error, after⟩
  · dsimp only [Outcome.followedBy]
    cases token.declaredType? with
    | none => rfl
    | some type =>
        dsimp only
        rw [flat_bind_run]
        rcases advance behindType (.kind .identifier) with
          ⟨_ | name | _ | _ | _ | _, behindName, nameRead⟩ | ⟨error, after⟩
        case done.identifier =>
          dsimp only [Outcome.followedBy]
          rw [flat_bind_run]
          rcases isCurrent behindName (.punctuation .terminator) with
            ⟨_ | _, ahead, looked⟩ | ⟨error, after⟩
          · dsimp only [Outcome.followedBy]
            rw [flat_bind_run]
            rcases expect ahead (.operator .assign) with ⟨_, behindSign, passed⟩ | ⟨error, after⟩
            · dsimp only [Outcome.followedBy]
              rw [bind_run
                (expressionWithin_settles grammar depth behindSign .lowest (by omega))]
              cases expression grammar behindSign .lowest <;> rfl
            · rfl
          · rfl
          · rfl
        all_goals rfl
  · rfl

theorem printingWithin_settles (grammar : Grammar) (depth : Nat) (stream : TokenStream)
    (sufficient : 2 * stream.size + 1 < depth) :
    (printingWithin grammar depth).run stream = (printing grammar stream).settled := by
  rw [printingWithin, printing, flat_bind_run]
  rcases expect stream (.keyword .print) with ⟨_, behindWord, wordRead⟩ | ⟨error, after⟩
  · dsimp only [Outcome.followedBy]
    rw [flat_bind_run]
    rcases expect behindWord (.punctuation .openParen) with ⟨_, inside, opened⟩ | ⟨error, after⟩
    · dsimp only [Outcome.followedBy]
      rw [bind_run (expressionWithin_settles grammar depth inside .lowest (by omega))]
      rcases expression grammar inside .lowest with ⟨argument, behind, read⟩ | ⟨error, after⟩
      · dsimp only [Outcome.followedBy]
        rw [flat_bind_run]
        cases expect behind (.punctuation .closeParen) <;> rfl
      · rfl
    · rfl
  · rfl

theorem statementWithin_settles (grammar : Grammar) (depth : Nat) (stream : TokenStream)
    (sufficient : 2 * stream.size + 1 < depth) :
    (statementWithin grammar depth).run stream = (statement grammar stream).settled := by
  rw [statementWithin, statement, flat_bind_run]
  rcases current stream with ⟨token, ahead, looked⟩ | ⟨error, after⟩
  · dsimp only [Outcome.followedBy]
    rcases statementForm? grammar token with _ | (_ | _)
    · dsimp only [Outcome.followedBy]
      rw [settled_since,
        bind_run (expressionWithin_settles grammar depth ahead .lowest (by omega))]
      cases expression grammar ahead .lowest <;> rfl
    · rw [settled_since, statementOf, declarationWithin_settles grammar depth ahead (by omega)]
    · rw [settled_since, statementOf, printingWithin_settles grammar depth ahead (by omega)]
  · rfl

/-- Where the depth suffices, what is read is what the unlimited reading reads. -/
theorem programWithin_settles (grammar : Grammar) (depth : Nat) (stream : TokenStream)
    (sufficient : 2 * stream.size + 2 < depth) :
    (programWithin grammar depth).run stream = (program grammar stream).settled := by
  induction depth generalizing stream with
  | zero => omega
  | succ depth induction =>
      rw [programWithin, program, flat_bind_run]
      rcases current stream with ⟨_ | _, ahead, looked⟩ | ⟨error, after⟩
      · rfl
      · dsimp only [Outcome.followedBy]
        rw [bind_run (statementWithin_settles grammar depth ahead (by omega))]
        rcases statement grammar ahead with ⟨first, behind, read⟩ | ⟨error, after⟩
        · dsimp only [Outcome.followedBy]
          rw [flat_bind_run]
          rcases current behind with ⟨_ | _, next, lookedOn⟩ | ⟨error, after⟩
          · rfl
          · dsimp only [Outcome.followedBy]
            rw [flat_bind_run]
            rcases expect next (.punctuation .terminator) with ⟨_, rest, passed⟩ | ⟨error, after⟩
            · dsimp only [Outcome.followedBy]
              rw [bind_run (induction rest (by omega))]
              cases program grammar rest <;> rfl
            · rfl
          · rfl
        · rfl
      · rfl

end Reading
end Luso
