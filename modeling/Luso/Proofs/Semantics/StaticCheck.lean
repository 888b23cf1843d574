import Luso.Proofs.Semantics.WellTyped

/-!
# Checking without running

A check walks over a program as the analysis does, but knows of each variable only its type and
whether it has a value.  The analysis runs the program; still its verdict depends on the computed
values in one point alone, the divisions by zero.
-/

namespace Luso

/-- What is known of a variable without its value. -/
structure Declared where
  /-- The type given by the declaration. -/
  type : DataType
  /-- Whether it was ever given a value. -/
  initialised : Bool
deriving DecidableEq

/-- The declared variables without their values. -/
abbrev Outline := String → Option Declared

/-- Why a program is refused without being run. -/
inductive StaticError where
  /-- A name is declared a second time. -/
  | redeclaration (name : String)
  /-- A name is used that is not declared. -/
  | undeclaredIdentifier (name : String)
  /-- A variable is read that holds no value. -/
  | uninitializedIdentifier (name : String)
  /-- A variable is given a value of the other type. -/
  | typeMismatch (found expected : DataType)
deriving DecidableEq

/-- The outline with one variable added or replaced. -/
def Outline.set (outline : Outline) (name : String) (declared : Declared) : Outline :=
  fun other => if other = name then some declared else outline other

/-- The type of an operation's value. -/
def DataType.join (left right : DataType) : DataType :=
  if left = .integer ∧ right = .integer then .integer else .real

/-- The type of an expression, and the variables after its assignments. -/
def Expression.check : Expression → Outline → Except StaticError (DataType × Outline)
  | .integer _, outline => .ok (.integer, outline)
  | .real _, outline => .ok (.real, outline)
  | .identifier name, outline =>
      match outline name with
      | none => .error (.undeclaredIdentifier name)
      | some declared =>
          if declared.initialised then .ok (declared.type, outline)
          else .error (.uninitializedIdentifier name)
  | .binary _ left right, outline => do
      let (leftType, outline) ← left.check outline
      let (rightType, outline) ← right.check outline
      return (leftType.join rightType, outline)
  | .assignment name value, outline =>
      match outline name with
      | none => .error (.undeclaredIdentifier name)
      | some declared => do
          let (type, outline) ← value.check outline
          if type = declared.type then
            return (type, outline.set name { type, initialised := true })
          else
            throw (.typeMismatch type declared.type)

/-- The variables with one more, whose first value has the given type. -/
def Outline.introduce (outline : Outline) (type : DataType) (name : String)
    (initial : Option DataType) : Except StaticError Outline :=
  if (outline name).isSome then
    .error (.redeclaration name)
  else
    match initial with
    | none => .ok (outline.set name { type, initialised := false })
    | some found =>
        if found = type then .ok (outline.set name { type, initialised := true })
        else .error (.typeMismatch found type)

/-- The variables after a statement. -/
def Statement.check : Statement → Outline → Except StaticError Outline
  | .declaration type name none, outline => outline.introduce type name none
  | .declaration type name (some initial), outline => do
      let (found, outline) ← initial.check outline
      outline.introduce type name (some found)
  | .print argument, outline => do
      let (_, outline) ← argument.check outline
      return outline
  | .expression value, outline => do
      let (_, outline) ← value.check outline
      return outline

/-- The variables after the statements of a program. -/
def Program.checkFrom : Program → Outline → Except StaticError Outline
  | [], outline => .ok outline
  | first :: rest, outline => do
      let outline ← first.check outline
      checkFrom rest outline

/-- Check a program on its own. -/
def Program.check (program : Program) : Except StaticError Unit :=
  (Program.checkFrom program (fun _ => none)).map (fun _ => ())

/-! ## The outline of a scope -/

/-- A variable without its value. -/
def Variable.outline (entry : Variable) : Declared :=
  { type := entry.type, initialised := entry.value.isSome }

/-- The variables of a scope without their values. -/
def Scope.outline (scope : Scope) : Outline :=
  fun name => (scope.get? name).map Variable.outline

/-- An error without its value.  A division by zero is not seen by the check. -/
def SemanticError.static? : SemanticError → Option StaticError
  | .redeclaration name => some (.redeclaration name)
  | .undeclaredIdentifier name => some (.undeclaredIdentifier name)
  | .uninitializedIdentifier name => some (.uninitializedIdentifier name)
  | .typeMismatch value expected => some (.typeMismatch value.type expected)
  | .divisionByZero => none

namespace Scope

theorem isSome_outline (scope : Scope) (name : String) :
    (scope.outline name).isSome = scope.contains name := by
  rw [outline, Option.isSome_map, contains]

theorem outline_update {scope : Scope} {name : String} {value : Value}
    (type_eq : scope.typeOf? name = some value.type) :
    (scope.update name value).outline =
      scope.outline.set name { type := value.type, initialised := true } := by
  funext other
  obtain ⟨entry, found, entry_type⟩ := Option.map_eq_some_iff.mp type_eq
  rw [outline, get?_update, Outline.set, outline]
  by_cases same : other = name
  · subst same
    simp [found, Variable.outline, entry_type]
  · simp [same]

theorem outline_declare {scope result : Scope} {name : String} {type : DataType}
    {value : Option Value} (declared : scope.declare name type value = .ok result) :
    result.outline = scope.outline.set name { type, initialised := value.isSome } := by
  funext other
  rw [outline, get?_of_declare declared, Outline.set, outline]
  split <;> rfl

end Scope

/-! ## The check foretells the analysis -/

/-- A check foretells an outcome of the analysis: of a success what is left of it without the
values, and of an error that error, unless it is a division by zero. -/
def Foretells {α β : Type} (forget : α → Scope → β) (checked : Except StaticError β) :
    Except SemanticError α × Scope → Prop
  | (.ok result, after) => checked = .ok (forget result after)
  | (.error error, _) => ∀ static, error.static? = some static → checked = .error static

section Foretells

variable {α β : Type} {forget : α → Scope → β} {checked : Except StaticError β} {after : Scope}

@[simp]
theorem foretells_ok {result : α} :
    Foretells forget checked (.ok result, after) ↔ checked = .ok (forget result after) := Iff.rfl

@[simp]
theorem foretells_error {error : SemanticError} :
    Foretells forget checked (.error error, after) ↔
      ∀ static, error.static? = some static → checked = .error static := Iff.rfl

/-- Foretelling goes on where the first of two attempts succeeds. -/
theorem Foretells.andThen {γ δ : Type} {forget' : γ → Scope → δ}
    {attempt : Except SemanticError α × Scope} {next : α → Scope → Except SemanticError γ × Scope}
    {checkNext : β → Except StaticError δ} (first : Foretells forget checked attempt)
    (second : ∀ value after, attempt = (.ok value, after) →
      Foretells forget' (checkNext (forget value after)) (next value after)) :
    Foretells forget' (checked >>= checkNext) (Luso.andThen attempt next) := by
  rcases attempt with ⟨error | value, after⟩
  · rw [andThen_error, foretells_error]
    intro static static_eq
    rw [first static static_eq]
    rfl
  · rw [foretells_ok] at first
    rw [first]
    exact second value after rfl

end Foretells

theorem Expression.check_foretells (expression : Expression) {scope : Scope}
    (typed : scope.WellTyped) :
    Foretells (fun value after => (value.type, after.outline)) (expression.check scope.outline)
      (expression.evaluate scope) := by
  induction expression generalizing scope with
  | integer | real => rfl
  | identifier name =>
      rw [evaluate, check, Scope.outline, Scope.read]
      cases found : scope.get? name with
      | none => simp [SemanticError.static?]
      | some entry =>
          cases holds : entry.value with
          | none => simp [SemanticError.static?, Variable.outline, holds]
          | some value =>
              have type_eq := typed name entry value found holds
              simp only [Option.map_some, Variable.outline, holds, Option.isSome_some, if_true,
                type_eq, foretells_ok]
  | binary operation left right leftInduction rightInduction =>
      rw [evaluate_binary, check]
      refine (leftInduction typed).andThen fun leftValue middle left_eq => ?_
      have middleTyped := wellTyped_of_evaluate left_eq typed
      refine (rightInduction middleTyped).andThen fun rightValue after _ => ?_
      cases combined : Value.combine? operation leftValue rightValue with
      | none =>
          rintro static ⟨⟩
      | some value =>
          rw [Option.elim_some, foretells_ok, Value.type_of_combine? combined]
          rfl
  | assignment name assigned induction =>
      rw [check, evaluate_assignment, Scope.contains_eq_isSome_typeOf?]
      cases declared : scope.typeOf? name with
      | none =>
          rw [Scope.outline, Option.map_eq_none_iff.mp declared]
          simp [SemanticError.static?]
      | some type =>
          obtain ⟨entry, found, rfl⟩ := Option.map_eq_some_iff.mp declared
          have outlined : scope.outline name = some entry.outline := by
            rw [Scope.outline, found, Option.map_some]
          simp only [outlined, Option.isSome_some, if_true]
          refine (induction typed).andThen fun value after value_eq => ?_
          have stillDeclared : after.typeOf? name = some entry.type := by
            rw [typeOf?_of_evaluate value_eq, declared]
          rw [Scope.store, Scope.assign_of_typeOf? stillDeclared]
          by_cases type_eq : value.type = entry.type
          · have updated := Scope.outline_update (stillDeclared.trans (congrArg some type_eq.symm))
            rw [if_pos type_eq, if_pos (by exact type_eq), foretells_ok, updated]
            rfl
          · rw [if_neg type_eq, if_neg (by exact type_eq), foretells_error]
            rintro static ⟨⟩
            rfl

namespace Statement

theorem analyzeDeclaration_foretold (type : DataType) (name : String) (initial : Option Value)
    (scope : Scope) :
    Foretells (fun _ after => after.outline)
      (scope.outline.introduce type name (initial.map Value.type))
      (analyzeDeclaration type name initial scope) := by
  rw [analyzeDeclaration, Outline.introduce.eq_def, Scope.isSome_outline]
  obtain ⟨known, introduce_eq⟩ | ⟨value, fresh, rfl, type_ne, introduce_eq⟩ |
    ⟨result, fresh, type_eq, declared, introduce_eq⟩ := scope.introduce_cases type name initial
  · rw [introduce_eq, if_pos known, foretells_error]
    rintro static ⟨⟩
    rfl
  · simp only [introduce_eq, fresh, Option.map_some, if_neg type_ne, foretells_error]
    rintro static ⟨⟩
    rfl
  · rw [introduce_eq, foretells_ok, Scope.outline_declare declared]
    cases initial with
    | none => simp [fresh]
    | some value => simp [fresh, type_eq value rfl]

theorem check_foretells (statement : Statement) {scope : Scope} (typed : scope.WellTyped) :
    Foretells (fun _ after => after.outline) (statement.check scope.outline)
      (statement.analyze scope) := by
  cases statement with
  | declaration type name initial =>
      cases initial with
      | none => exact analyzeDeclaration_foretold type name none scope
      | some initial =>
          rw [check, analyze_declaration]
          exact (initial.check_foretells typed).andThen fun value after _ =>
            analyzeDeclaration_foretold type name (some value) after
  | print argument =>
      rw [check, analyze_print]
      exact (argument.check_foretells typed).andThen fun _ _ _ => rfl
  | expression value =>
      rw [check, analyze_expression]
      exact (value.check_foretells typed).andThen fun _ _ _ => rfl

end Statement

theorem Program.checkFrom_foretells (program : Program) {scope : Scope} (typed : scope.WellTyped) :
    Foretells (fun _ after => after.outline) (Program.checkFrom program scope.outline)
      (Program.analyzeFrom program scope) := by
  induction program generalizing scope with
  | nil => rfl
  | cons first rest induction =>
      rw [checkFrom, analyzeFrom_cons]
      refine (first.check_foretells typed).andThen fun _ middle first_eq => induction ?_
      have middleTyped := first.wellTyped_analyze typed
      rwa [first_eq] at middleTyped

theorem SemanticError.static?_isSome {error : SemanticError} (other : error ≠ .divisionByZero) :
    ∃ static, error.static? = some static := by
  cases error with
  | divisionByZero => exact absurd rfl other
  | _ => exact ⟨_, rfl⟩

/-- The analysis accepts only what the check accepts, fails on that with a division by zero at most,
and reports, but for divisions by zero, the error that the check finds first. -/
theorem analyze_foretold_by_check (program : Program) :
    (Program.analyze program = .ok () → Program.check program = .ok ()) ∧
      (Program.check program = .ok () →
        Program.analyze program = .ok () ∨ Program.analyze program = .error .divisionByZero) ∧
      (∀ error, Program.analyze program = .error error → error ≠ .divisionByZero →
        ∃ static, error.static? = some static ∧ Program.check program = .error static) := by
  have foretold := Program.checkFrom_foretells program Scope.wellTyped_empty
  rw [Program.analyze, Program.check]
  generalize Program.analyzeFrom program .empty = outcome at foretold ⊢
  rcases outcome with ⟨error | ⟨⟩, after⟩
  · have refused {static : StaticError} (static_eq : error.static? = some static) :
        (Program.checkFrom program fun _ => none).map (fun _ => ()) = .error static :=
      congrArg (Except.map _) (foretold static static_eq)
    refine ⟨by rintro ⟨⟩, ?_, ?_⟩
    · intro accepted
      by_cases division : error = .divisionByZero
      · exact .inr (by rw [division])
      · obtain ⟨static, static_eq⟩ := SemanticError.static?_isSome division
        cases accepted.symm.trans (refused static_eq)
    · rintro other ⟨⟩ noDivision
      obtain ⟨static, static_eq⟩ := SemanticError.static?_isSome noDivision
      exact ⟨static, static_eq, refused static_eq⟩
  · have accepted : (Program.checkFrom program fun _ => none).map (fun _ => ()) = .ok () :=
      congrArg (Except.map _) foretold
    refine ⟨fun _ => accepted, fun _ => .inl rfl, ?_⟩
    rintro error ⟨⟩

end Luso
