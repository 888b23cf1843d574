import Luso.Semantics.Analysis

/-!
# Attempts

Running a program is a sequence of attempts, each of which gives a value or an error and leaves a
state behind in either case.  An error ends the sequence.  Two such sequences agree when their
single attempts do.
-/

namespace Luso

section

variable {ε α α' β β' σ σ' : Type}

/-- Continue with the value of an attempt in the state that it leaves behind. -/
def andThen (attempt : Except ε α × σ) (next : α → σ → Except ε β × σ) : Except ε β × σ :=
  match attempt with
  | (.error error, state) => (.error error, state)
  | (.ok value, state) => next value state

@[simp]
theorem andThen_ok (value : α) (state : σ) (next : α → σ → Except ε β × σ) :
    andThen (.ok value, state) next = next value state := rfl

@[simp]
theorem andThen_error (error : ε) (state : σ) (next : α → σ → Except ε β × σ) :
    andThen (.error error, state) next = (.error error, state) := rfl

theorem andThen_eq_ok {attempt : Except ε α × σ} {next : α → σ → Except ε β × σ} {result : β}
    {after : σ} (ended : andThen attempt next = (.ok result, after)) :
    ∃ value middle, attempt = (.ok value, middle) ∧ next value middle = (.ok result, after) := by
  obtain ⟨error | value, middle⟩ := attempt
  · cases ended
  · exact ⟨value, middle, rfl, ended⟩

/-- What holds after the first attempt, and is preserved by the second, holds after both. -/
theorem andThen_preserves {holds : σ → Prop} {attempt : Except ε α × σ}
    {next : α → σ → Except ε β × σ} (first : holds attempt.2)
    (second : ∀ value middle, holds middle → holds (next value middle).2) :
    holds (andThen attempt next).2 := by
  obtain ⟨error | value, middle⟩ := attempt
  · exact first
  · exact second value middle first

/-- Two attempts fail with the same error, or both give a value, and leave related states. -/
inductive Agree (values : α → α' → Prop) (states : σ → σ' → Prop) :
    Except ε α × σ → Except ε α' × σ' → Prop
  /-- Both give a value. -/
  | ok {value : α} {value' : α'} {state : σ} {state' : σ'} (valuesRelated : values value value')
      (statesRelated : states state state') :
      Agree values states (.ok value, state) (.ok value', state')
  /-- Both fail. -/
  | error (error : ε) {state : σ} {state' : σ'} (statesRelated : states state state') :
      Agree values states (.error error, state) (.error error, state')

theorem Agree.andThen {values : α → α' → Prop} {results : β → β' → Prop}
    {states : σ → σ' → Prop} {attempt : Except ε α × σ} {attempt' : Except ε α' × σ'}
    {next : α → σ → Except ε β × σ} {next' : α' → σ' → Except ε β' × σ'}
    (first : Agree values states attempt attempt')
    (second : ∀ {value value' state state'}, attempt = (.ok value, state) →
      values value value' → states state state' →
      Agree results states (next value state) (next' value' state')) :
    Agree results states (Luso.andThen attempt next) (Luso.andThen attempt' next') := by
  cases first with
  | ok valuesRelated statesRelated => exact second rfl valuesRelated statesRelated
  | error error statesRelated => exact .error error statesRelated

end

/-! ## The analysis as a sequence of attempts -/

/-- Give a declared variable a value, which is also the result. -/
def Scope.store (scope : Scope) (name : String) (value : Value) :
    Except SemanticError Value × Scope :=
  match scope.assign name value with
  | .error error => (.error error, scope)
  | .ok scope => (.ok value, scope)

theorem Expression.evaluate_binary (operation : Arithmetic) (left right : Expression)
    (scope : Scope) :
    (Expression.binary operation left right).evaluate scope =
      andThen (left.evaluate scope) fun leftValue scope =>
        andThen (right.evaluate scope) fun rightValue scope =>
          ((Value.combine? operation leftValue rightValue).elim (.error .divisionByZero) .ok,
            scope) := by
  rw [evaluate]
  obtain ⟨error | leftValue, middle⟩ := left.evaluate scope
  · rfl
  · simp only [andThen_ok]
    obtain ⟨error | rightValue, after⟩ := right.evaluate middle
    · rfl
    · simp only [andThen_ok]
      cases Value.combine? operation leftValue rightValue <;> rfl

theorem Expression.evaluate_assignment (name : String) (assigned : Expression) (scope : Scope) :
    (Expression.assignment name assigned).evaluate scope =
      if scope.contains name then
        andThen (assigned.evaluate scope) fun value scope => scope.store name value
      else (.error (.undeclaredIdentifier name), scope) := by
  rw [evaluate]
  split
  · obtain ⟨error | value, middle⟩ := assigned.evaluate scope <;> rfl
  · rfl

theorem Statement.analyze_declaration (type : DataType) (name : String) (initial : Expression)
    (scope : Scope) :
    (Statement.declaration type name (some initial)).analyze scope =
      andThen (initial.evaluate scope) fun value scope =>
        analyzeDeclaration type name (some value) scope := by
  rw [analyze]
  obtain ⟨error | value, middle⟩ := initial.evaluate scope <;> rfl

theorem Statement.analyze_print (argument : Expression) (scope : Scope) :
    (Statement.print argument).analyze scope =
      andThen (argument.evaluate scope) fun _ scope => (.ok (), scope) := by
  rw [analyze]
  obtain ⟨error | value, middle⟩ := argument.evaluate scope <;> rfl

theorem Statement.analyze_expression (value : Expression) (scope : Scope) :
    (Statement.expression value).analyze scope =
      andThen (value.evaluate scope) fun _ scope => (.ok (), scope) := by
  rw [analyze]
  obtain ⟨error | value, middle⟩ := value.evaluate scope <;> rfl

theorem Program.analyzeFrom_cons (first : Statement) (rest : Program) (scope : Scope) :
    analyzeFrom (first :: rest) scope =
      andThen (first.analyze scope) fun _ scope => analyzeFrom rest scope := by
  rw [analyzeFrom]
  obtain ⟨error | ⟨⟩, middle⟩ := first.analyze scope <;> rfl

end Luso
