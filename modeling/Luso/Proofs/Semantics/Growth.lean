import Luso.Proofs.Semantics.WellTyped
import Luso.Proofs.Syntax.Names

/-!
# How a scope grows

The analysis changes variables by assignments of values of their types and by declarations that
succeed, and by nothing else.  So whatever is asked of it, in any order and going on after errors, no
variable is lost, changes its type or loses its value, and there are as many new ones as declarations
have succeeded.
-/

namespace Luso
namespace Scope

variable {before middle after : Scope} {name : String} {type : DataType} {value : Option Value}

/-! ## Names -/

@[simp]
theorem names_update (scope : Scope) (name : String) (value : Value) :
    (scope.update name value).names = scope.names := by
  rw [names, names, update, List.map_map]
  rfl

theorem Assignments.names_eq (steps : Assignments before after) : after.names = before.names := by
  induction steps with
  | refl => rfl
  | tail _ step induction =>
      obtain ⟨target, value, -, rfl⟩ := step
      rw [names_update, induction]

/-- Only a name that is not declared yet can be declared, and it becomes the newest one. -/
theorem names_of_declare (declared : before.declare name type value = .ok after) :
    name ∉ before.names ∧ after.names = name :: before.names := by
  rw [declare] at declared
  split at declared
  · cases declared
  · rename_i fresh
    cases declared
    exact ⟨fresh, rfl⟩

theorem size_eq_length_names (scope : Scope) : scope.size = scope.names.length := by
  rw [size, names, List.length_map]

/-! ## Growth -/

/-- All variables are still there, with their types, and those that held a value still hold one. -/
def Grows (before after : Scope) : Prop :=
  ∀ name entry, before.get? name = some entry →
    ∃ later, after.get? name = some later ∧ later.type = entry.type ∧
      (entry.value.isSome = true → later.value.isSome = true)

theorem Grows.refl (scope : Scope) : scope.Grows scope := by
  intro name entry found
  exact ⟨entry, found, rfl, id⟩

theorem Grows.trans (first : before.Grows middle) (second : middle.Grows after) :
    before.Grows after := by
  intro name entry found
  obtain ⟨between, between_found, between_type, between_value⟩ := first name entry found
  obtain ⟨later, later_found, later_type, later_value⟩ := second name between between_found
  exact ⟨later, later_found, later_type.trans between_type, later_value ∘ between_value⟩

theorem grows_update (scope : Scope) (name : String) (value : Value) :
    scope.Grows (scope.update name value) := by
  intro other entry found
  rw [get?_update, found, Option.map_some]
  refine ⟨_, rfl, ?_⟩
  split
  · exact ⟨rfl, fun _ => rfl⟩
  · exact ⟨rfl, id⟩

theorem grows_of_declare (declared : before.declare name type value = .ok after) :
    before.Grows after := by
  intro other entry found
  have known : other ∈ before.names :=
    (before.contains_iff_mem_names other).mp (contains_of_get? found)
  have apart : other ≠ name := fun same => (names_of_declare declared).1 (same ▸ known)
  rw [get?_of_declare declared, if_neg apart]
  exact ⟨entry, found, rfl, id⟩

theorem Assignments.grows (steps : Assignments before after) : before.Grows after := by
  induction steps with
  | refl => exact .refl before
  | tail _ step induction =>
      obtain ⟨target, value, -, rfl⟩ := step
      exact induction.trans (grows_update _ target value)

end Scope

/-! ## Statements -/

/-- How a statement changes the variables: by assignments, and behind them by the declaration, if it
is one and succeeds. -/
inductive Statement.Changes (statement : Statement) (before : Scope) :
    Except SemanticError Unit × Scope → Prop where
  | failed (error) {after} :
      before.Assignments after → Changes statement before (.error error, after)
  | evaluated {after} :
      statement.declaredName? = none → before.Assignments after →
      Changes statement before (.ok (), after)
  | declared {name type value middle after} :
      statement.declaredName? = some name → before.Assignments middle →
      middle.declare name type value = .ok after → Changes statement before (.ok (), after)

namespace Statement

variable {statement : Statement} {before : Scope} {outcome : Except SemanticError Unit × Scope}

theorem changes_analyzeDeclaration {name : String} {middle : Scope}
    (declares : statement.declaredName? = some name) (steps : before.Assignments middle)
    (type : DataType) (initial : Option Value) :
    statement.Changes before (analyzeDeclaration type name initial middle) := by
  rw [analyzeDeclaration]
  obtain ⟨-, introduce_eq⟩ | ⟨value, -, -, -, introduce_eq⟩ |
    ⟨result, -, -, declared, introduce_eq⟩ := middle.introduce_cases type name initial
  · rw [introduce_eq]
    exact .failed _ steps
  · rw [introduce_eq]
    exact .failed _ steps
  · rw [introduce_eq]
    exact .declared declares steps declared

/-- If what follows an evaluation changes the variables as the statement does, then both do. -/
theorem changes_andThen (expression : Expression)
    {next : Value → Scope → Except SemanticError Unit × Scope}
    (continues : ∀ value middle, before.Assignments middle →
      statement.Changes before (next value middle)) :
    statement.Changes before (andThen (expression.evaluate before) next) := by
  have steps := expression.assignments_evaluate before
  generalize expression.evaluate before = attempt at steps ⊢
  obtain ⟨error | value, middle⟩ := attempt
  · exact .failed error steps
  · exact continues value middle steps

theorem changes_analyze (statement : Statement) (scope : Scope) :
    statement.Changes scope (statement.analyze scope) := by
  cases statement with
  | declaration type name initial =>
      cases initial with
      | none => exact changes_analyzeDeclaration rfl .refl type none
      | some initial =>
          rw [analyze_declaration]
          exact changes_andThen initial fun value middle steps =>
            changes_analyzeDeclaration rfl steps type (some value)
  | print argument =>
      rw [analyze_print]
      exact changes_andThen argument fun _ _ steps => .evaluated rfl steps
  | expression value =>
      rw [analyze_expression]
      exact changes_andThen value fun _ _ steps => .evaluated rfl steps

theorem Changes.grows (changes : statement.Changes before outcome) : before.Grows outcome.2 := by
  cases changes with
  | failed _ steps => exact steps.grows
  | evaluated _ steps => exact steps.grows
  | declared _ steps declared => exact steps.grows.trans (Scope.grows_of_declare declared)

/-- A statement that fails adds no name. -/
theorem Changes.names_of_error {error : SemanticError} {after : Scope}
    (changes : statement.Changes before (.error error, after)) : after.names = before.names := by
  cases changes with
  | failed _ steps => exact steps.names_eq

/-- A statement that succeeds adds the name that it declares, if it declares one. -/
theorem Changes.names_of_ok {after : Scope} (changes : statement.Changes before (.ok (), after)) :
    after.names = statement.declaredName?.toList ++ before.names := by
  cases changes with
  | evaluated noName steps => rw [steps.names_eq, noName, Option.toList_none, List.nil_append]
  | declared declares steps declared =>
      rw [(Scope.names_of_declare declared).2, steps.names_eq, declares, Option.toList_some,
        List.singleton_append]

end Statement

/-! ## Programs -/

namespace Program

/-- The statements of a program that succeed when it is analysed. -/
def passed : Program → Scope → Program
  | [], _ => []
  | first :: rest, scope =>
      match first.analyze scope with
      | (.error _, _) => []
      | (.ok (), scope) => first :: passed rest scope

theorem passed_of_analyzeFrom {program : Program} {scope after : Scope}
    (analyzed : analyzeFrom program scope = (.ok (), after)) : passed program scope = program := by
  induction program generalizing scope with
  | nil => rfl
  | cons first rest induction =>
      rw [analyzeFrom_cons] at analyzed
      obtain ⟨⟨⟩, middle, first_eq, rest_eq⟩ := andThen_eq_ok analyzed
      rw [passed, first_eq]
      exact congrArg (first :: ·) (induction rest_eq)

/-- The analysis adds the names that are declared by the statements which succeed. -/
theorem names_analyzeFrom (program : Program) (scope : Scope) :
    (analyzeFrom program scope).2.names =
      (declaredNames (passed program scope)).reverse ++ scope.names := by
  induction program generalizing scope with
  | nil => rfl
  | cons first rest induction =>
      have changes := first.changes_analyze scope
      rw [analyzeFrom_cons, passed]
      generalize first.analyze scope = attempt at changes ⊢
      obtain ⟨error | ⟨⟩, middle⟩ := attempt
      · exact changes.names_of_error
      · rw [andThen_ok, induction, changes.names_of_ok, declaredNames, declaredNames]
        cases declares : first.declaredName? with
        | none => rw [List.filterMap_cons_none declares, Option.toList_none, List.nil_append]
        | some name =>
            rw [List.filterMap_cons_some declares, List.reverse_cons, Option.toList_some,
              List.append_assoc]

theorem size_analyzeFrom (program : Program) (scope : Scope) :
    (analyzeFrom program scope).2.size =
      scope.size + (declaredNames (passed program scope)).length := by
  rw [Scope.size_eq_length_names, Scope.size_eq_length_names, names_analyzeFrom,
    List.length_append, List.length_reverse, Nat.add_comm]

theorem grows_analyzeFrom (program : Program) (scope : Scope) :
    scope.Grows (analyzeFrom program scope).2 := by
  induction program generalizing scope with
  | nil => exact .refl scope
  | cons first rest induction =>
      rw [analyzeFrom_cons]
      exact andThen_preserves (first.changes_analyze scope).grows
        fun _ middle grows => grows.trans (induction middle)

theorem wellTyped_analyzeFrom (program : Program) {scope : Scope} (typed : scope.WellTyped) :
    (analyzeFrom program scope).2.WellTyped := by
  induction program generalizing scope with
  | nil => exact typed
  | cons first rest induction =>
      rw [analyzeFrom_cons]
      exact andThen_preserves (first.wellTyped_analyze typed) fun _ _ => induction

end Program

/-! ## Requests -/

/-- What can be asked of an analysis that goes on. -/
inductive Request where
  /-- Examine the statements of a program in order, up to the first error. -/
  | analyze (program : Program)
  /-- Evaluate an expression. -/
  | evaluate (expression : Expression)

namespace Request

/-- The variables after a request, whether it succeeds or fails. -/
def serve : Request → Scope → Scope
  | analyze program, scope => (Program.analyzeFrom program scope).2
  | evaluate expression, scope => (expression.evaluate scope).2

/-- The variables after requests that are made one after the other, from none on. -/
def serveAll (requests : List Request) : Scope :=
  requests.foldl (fun scope request => request.serve scope) .empty

theorem grows_serve (request : Request) (scope : Scope) : scope.Grows (request.serve scope) := by
  cases request with
  | analyze program => exact program.grows_analyzeFrom scope
  | evaluate expression => exact (expression.assignments_evaluate scope).grows

theorem wellTyped_serve (request : Request) {scope : Scope} (typed : scope.WellTyped) :
    (request.serve scope).WellTyped := by
  cases request with
  | analyze program => exact program.wellTyped_analyzeFrom typed
  | evaluate expression => exact (expression.assignments_evaluate scope).wellTyped typed

theorem wellTyped_serveAll (requests : List Request) : (serveAll requests).WellTyped := by
  rw [serveAll]
  exact List.foldlRecOn requests _ Scope.wellTyped_empty
    fun _ typed request _ => request.wellTyped_serve typed

/-- After any requests, also failed ones, every value has the type of its variable.  A further request
loses no variable, changes no type and takes no value away.  Analysing a program adds as many variables
as declarations in it succeed; a statement that fails, and the evaluation of an expression, add none. -/
theorem serveAll_keeps_variables (requests : List Request) :
    (serveAll requests).WellTyped ∧
      (∀ request : Request, (serveAll requests).Grows (request.serve (serveAll requests))) ∧
      (∀ program : Program,
        ((analyze program).serve (serveAll requests)).size =
          (serveAll requests).size +
            (Program.declaredNames (Program.passed program (serveAll requests))).length) ∧
      (∀ (statement : Statement) (before after : Scope) (error : SemanticError),
        statement.analyze before = (.error error, after) → after.names = before.names) ∧
      ∀ expression : Expression,
        ((evaluate expression).serve (serveAll requests)).names = (serveAll requests).names := by
  refine ⟨wellTyped_serveAll requests, fun request => request.grows_serve _, ?_, ?_, ?_⟩
  · intro program
    exact program.size_analyzeFrom (serveAll requests)
  · intro statement before after error failed
    have changes := statement.changes_analyze before
    rw [failed] at changes
    exact changes.names_of_error
  · intro expression
    exact (expression.assignments_evaluate (serveAll requests)).names_eq

end Request
end Luso
