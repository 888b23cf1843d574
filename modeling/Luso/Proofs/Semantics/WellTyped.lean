import Luso.Proofs.Semantics.Attempt
import Mathlib.Logic.Relation

/-!
# The types of variables

Whatever is analysed, and whether it fails or not, a variable keeps the type that it was declared
with, and what it holds is of that type.
-/

namespace Luso
namespace Scope

/-- Every variable that holds a value holds one of its own type. -/
def WellTyped (scope : Scope) : Prop :=
  ∀ name entry value, scope.get? name = some entry → entry.value = some value →
    value.type = entry.type

/-- The type that a name is declared with. -/
def typeOf? (scope : Scope) (name : String) : Option DataType :=
  (scope.get? name).map Variable.type

theorem wellTyped_empty : empty.WellTyped := by
  intro name entry value found
  cases found

theorem contains_eq_isSome_typeOf? (scope : Scope) (name : String) :
    scope.contains name = (scope.typeOf? name).isSome := by
  rw [contains, typeOf?, Option.isSome_map]

theorem contains_of_get? {scope : Scope} {name : String} {entry : Variable}
    (found : scope.get? name = some entry) : scope.contains name = true := by
  rw [contains, found, Option.isSome_some]

/-- Assigning to a declared variable fails only for a value of the other type. -/
theorem assign_of_typeOf? {scope : Scope} {name : String} {type : DataType}
    (declared : scope.typeOf? name = some type) (value : Value) :
    scope.assign name value =
      if value.type = type then .ok (scope.update name value)
      else .error (.typeMismatch value type) := by
  obtain ⟨entry, found, rfl⟩ := Option.map_eq_some_iff.mp declared
  rw [assign, found]

theorem assign_eq_ok {scope result : Scope} {name : String} {value : Value}
    (assigned : scope.assign name value = .ok result) :
    scope.typeOf? name = some value.type ∧ result = scope.update name value := by
  cases declared : scope.typeOf? name with
  | none =>
      rw [assign, Option.map_eq_none_iff.mp declared] at assigned
      cases assigned
  | some type =>
      rw [assign_of_typeOf? declared] at assigned
      split at assigned
      · rename_i type_eq
        cases assigned
        exact ⟨by rw [type_eq], rfl⟩
      · cases assigned

@[simp]
theorem typeOf?_update (scope : Scope) (name other : String) (value : Value) :
    (scope.update name value).typeOf? other = scope.typeOf? other := by
  rw [typeOf?, typeOf?, get?_update, Option.map_map]
  congr 1
  funext entry
  simp only [Function.comp]
  split <;> rfl

@[simp]
theorem contains_update (scope : Scope) (name other : String) (value : Value) :
    (scope.update name value).contains other = scope.contains other := by
  rw [contains_eq_isSome_typeOf?, contains_eq_isSome_typeOf?, typeOf?_update]

theorem WellTyped.update {scope : Scope} (typed : scope.WellTyped) {name : String} {value : Value}
    (type_eq : scope.typeOf? name = some value.type) : (scope.update name value).WellTyped := by
  intro other entry held found holds
  rw [get?_update] at found
  obtain ⟨before, before_eq, rfl⟩ := Option.map_eq_some_iff.mp found
  by_cases same : other = name
  · subst same
    rw [if_pos rfl] at holds ⊢
    obtain rfl := Option.some.inj holds
    rw [typeOf?, before_eq] at type_eq
    exact (Option.some.inj type_eq).symm
  · rw [if_neg same] at holds ⊢
    exact typed other before held before_eq holds

theorem WellTyped.declare {scope result : Scope} (typed : scope.WellTyped) {name : String}
    {type : DataType} {value : Option Value}
    (declared : scope.declare name type value = .ok result)
    (type_eq : ∀ held, value = some held → held.type = type) : result.WellTyped := by
  intro other entry held found holds
  rw [get?_of_declare declared] at found
  split at found
  · obtain rfl := Option.some.inj found
    exact type_eq held holds
  · exact typed other entry held found holds

/-- One scope becomes another when a declared variable is given a value of its type. -/
def Assignment (before after : Scope) : Prop :=
  ∃ name value, before.typeOf? name = some value.type ∧ after = before.update name value

/-- One scope becomes another by any number of such assignments. -/
def Assignments : Scope → Scope → Prop :=
  Relation.ReflTransGen Assignment

theorem Assignments.typeOf?_eq {before after : Scope} (steps : Assignments before after)
    (name : String) : after.typeOf? name = before.typeOf? name := by
  induction steps with
  | refl => rfl
  | tail _ step induction =>
      obtain ⟨target, value, -, rfl⟩ := step
      rw [typeOf?_update, induction]

theorem Assignments.wellTyped {before after : Scope} (steps : Assignments before after)
    (typed : before.WellTyped) : after.WellTyped := by
  induction steps with
  | refl => exact typed
  | tail _ step induction =>
      obtain ⟨target, value, type_eq, rfl⟩ := step
      exact induction.update type_eq

theorem assignments_store (scope : Scope) (name : String) (value : Value) :
    Assignments scope (scope.store name value).2 := by
  rw [store]
  split
  · exact .refl
  · rename_i after assign_eq
    obtain ⟨type_eq, rfl⟩ := assign_eq_ok assign_eq
    exact .single ⟨name, value, type_eq, rfl⟩

end Scope

/-! ## Evaluation -/

/-- Evaluating an expression, also one that fails, does nothing but assignments. -/
theorem Expression.assignments_evaluate (expression : Expression) (scope : Scope) :
    Scope.Assignments scope (expression.evaluate scope).2 := by
  induction expression generalizing scope with
  | integer | real | identifier => exact .refl
  | binary operation left right leftInduction rightInduction =>
      rw [evaluate_binary]
      refine andThen_preserves (leftInduction scope) fun _ middle leftSteps => ?_
      exact andThen_preserves (leftSteps.trans (rightInduction middle)) fun _ _ steps => steps
  | assignment name assigned induction =>
      rw [evaluate_assignment]
      split
      · refine andThen_preserves (induction scope) fun value middle steps => ?_
        exact steps.trans (middle.assignments_store name value)
      · exact .refl

theorem Expression.wellTyped_of_evaluate {expression : Expression} {scope after : Scope}
    {result : Except SemanticError Value} (evaluated : expression.evaluate scope = (result, after))
    (typed : scope.WellTyped) : after.WellTyped := by
  have steps := expression.assignments_evaluate scope
  rw [evaluated] at steps
  exact steps.wellTyped typed

theorem Expression.typeOf?_of_evaluate {expression : Expression} {scope after : Scope}
    {result : Except SemanticError Value} (evaluated : expression.evaluate scope = (result, after))
    (name : String) : after.typeOf? name = scope.typeOf? name := by
  have steps := expression.assignments_evaluate scope
  rw [evaluated] at steps
  exact steps.typeOf?_eq name

/-! ## Declarations and statements -/

/-- A declaration fails on a known name, then on a first value of the other type, and otherwise adds
the variable. -/
theorem Scope.introduce_cases (scope : Scope) (type : DataType) (name : String)
    (initial : Option Value) :
    (scope.contains name = true ∧
        scope.introduce type name initial = .error (.redeclaration name)) ∨
      (∃ value, scope.contains name = false ∧ initial = some value ∧ value.type ≠ type ∧
        scope.introduce type name initial = .error (.typeMismatch value type)) ∨
      (∃ result, scope.contains name = false ∧ (∀ value, initial = some value → value.type = type) ∧
        scope.declare name type initial = .ok result ∧
        scope.introduce type name initial = .ok result) := by
  cases known : scope.contains name with
  | true =>
      refine .inl ⟨rfl, ?_⟩
      rw [introduce.eq_def, if_pos known]
  | false =>
      have fresh : name ∉ scope.names := by
        rw [← contains_iff_mem_names, known]
        exact Bool.false_ne_true
      obtain ⟨result, declared⟩ : ∃ result, scope.declare name type initial = .ok result :=
        ⟨_, dif_neg fresh⟩
      refine .inr ?_
      rw [introduce.eq_def, if_neg (by simp [known])]
      cases initial with
      | none => exact .inr ⟨result, rfl, by simp, declared, declared⟩
      | some value =>
          by_cases type_eq : value.type = type
          · refine .inr ⟨result, rfl, ?_, declared, ?_⟩
            · rintro other ⟨⟩
              exact type_eq
            · simp only [type_eq, if_true, declared]
          · refine .inl ⟨value, rfl, rfl, type_eq, ?_⟩
            simp only [type_eq, if_false]

namespace Statement

theorem analyzeDeclaration_eq_ok {type : DataType} {name : String} {initial : Option Value}
    {scope after : Scope}
    (analyzed : analyzeDeclaration type name initial scope = (.ok (), after)) :
    scope.contains name = false ∧ (∀ value, initial = some value → value.type = type) ∧
      scope.declare name type initial = .ok after := by
  rw [analyzeDeclaration] at analyzed
  obtain ⟨-, introduce_eq⟩ | ⟨value, -, -, -, introduce_eq⟩ |
    ⟨result, fresh, type_eq, declared, introduce_eq⟩ := scope.introduce_cases type name initial
  · rw [introduce_eq] at analyzed
    cases analyzed
  · rw [introduce_eq] at analyzed
    cases analyzed
  · rw [introduce_eq] at analyzed
    cases analyzed
    exact ⟨fresh, type_eq, declared⟩

theorem wellTyped_analyzeDeclaration {type : DataType} {name : String} {initial : Option Value}
    {scope : Scope} (typed : scope.WellTyped) :
    (analyzeDeclaration type name initial scope).2.WellTyped := by
  rw [analyzeDeclaration]
  obtain ⟨-, introduce_eq⟩ | ⟨value, -, -, -, introduce_eq⟩ |
    ⟨result, -, type_eq, declared, introduce_eq⟩ := scope.introduce_cases type name initial
  · rw [introduce_eq]
    exact typed
  · rw [introduce_eq]
    exact typed
  · rw [introduce_eq]
    exact typed.declare declared type_eq

theorem wellTyped_analyze (statement : Statement) {scope : Scope} (typed : scope.WellTyped) :
    (statement.analyze scope).2.WellTyped := by
  have wellTyped_evaluate (expression : Expression) : (expression.evaluate scope).2.WellTyped :=
    (expression.assignments_evaluate scope).wellTyped typed
  cases statement with
  | declaration type name initial =>
      cases initial with
      | none => exact wellTyped_analyzeDeclaration typed
      | some initial =>
          rw [analyze_declaration]
          exact andThen_preserves (wellTyped_evaluate initial)
            fun _ _ => wellTyped_analyzeDeclaration
  | print argument =>
      rw [analyze_print]
      exact andThen_preserves (wellTyped_evaluate argument) fun _ _ middleTyped => middleTyped
  | expression value =>
      rw [analyze_expression]
      exact andThen_preserves (wellTyped_evaluate value) fun _ _ middleTyped => middleTyped

end Statement

end Luso
