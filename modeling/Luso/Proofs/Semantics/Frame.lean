import Luso.Proofs.Semantics.Dependence
import Luso.Proofs.Semantics.Growth
import Mathlib.Data.Option.Basic
import Mathlib.Data.Prod.Basic

/-!
# What an expression leaves alone

Evaluating an expression declares nothing and changes no type, and whatever it does not assign to keeps
its value, also if the evaluation fails.  What comes of it, and what it leaves in the variables that it
names, is decided by these variables alone.
-/

namespace Luso

namespace Scope

/-- A scope is known by its names in order and by the variable that each of them has. -/
theorem eq_of_names_eq {first second : Scope} (names_eq : first.names = second.names)
    (same : ∀ name, first.get? name = second.get? name) : first = second := by
  have entries_map (scope : Scope) : scope.entries.map (Prod.map id some) =
      scope.names.map (fun name => (name, scope.get? name)) := by
    rw [names, List.map_map]
    apply List.map_congr_left
    rintro ⟨name, entry⟩ member
    exact Prod.ext rfl (mem_entries_iff.mp member).symm
  have entries_eq : first.entries = second.entries := by
    have injective : (Prod.map (@id String) (@some Variable)).Injective :=
      Function.injective_id.prodMap (Option.some_injective _)
    apply List.map_injective_iff.mpr injective
    rw [entries_map, entries_map, names_eq]
    exact List.map_congr_left fun name _ => Prod.ext rfl (same name)
  cases first
  cases second
  cases entries_eq
  rfl

end Scope

namespace Expression

variable {expression : Expression}

/-- A variable that is not assigned to stays as it was. -/
theorem get?_evaluate {name : String} (spared : name ∉ expression.assignees) (scope : Scope) :
    (expression.evaluate scope).2.get? name = scope.get? name := by
  have outside : ∀ other ∈ expression.assignees, ¬other = name := by
    rintro other assigned rfl
    exact spared assigned
  exact (expression.agreeOn_evaluate outside scope name (Eq.refl name)).symm

theorem names_evaluate (expression : Expression) (scope : Scope) :
    (expression.evaluate scope).2.names = scope.names :=
  (expression.assignments_evaluate scope).names_eq

/-- Without assignments, an expression leaves all variables as they were. -/
theorem evaluate_of_assignees_nil (pure : expression.assignees = []) (scope : Scope) :
    (expression.evaluate scope).2 = scope := by
  apply Scope.eq_of_names_eq (expression.names_evaluate scope)
  intro name
  exact get?_evaluate (by simp [pure]) scope

/-- Whether it succeeds or fails, the evaluation of an expression keeps the names and their types, and
every variable that the expression does not assign to; so an expression without assignments changes
nothing.  In scopes with the same variables of the names in it, it has the same result and leaves the
same variables of these names. -/
theorem evaluate_frame (expression : Expression) :
    (∀ scope : Scope,
      (expression.evaluate scope).2.names = scope.names ∧
      (∀ name, (expression.evaluate scope).2.typeOf? name = scope.typeOf? name) ∧
      (∀ name, name ∉ expression.assignees →
        (expression.evaluate scope).2.get? name = scope.get? name) ∧
      (expression.assignees = [] → (expression.evaluate scope).2 = scope)) ∧
    ∀ first second : Scope, (∀ name ∈ expression.names, first.get? name = second.get? name) →
      (expression.evaluate first).1 = (expression.evaluate second).1 ∧
      ∀ name ∈ expression.names,
        (expression.evaluate first).2.get? name = (expression.evaluate second).2.get? name := by
  constructor
  · intro scope
    exact ⟨expression.names_evaluate scope,
      (expression.assignments_evaluate scope).typeOf?_eq,
      fun name spared => get?_evaluate spared scope,
      fun pure => evaluate_of_assignees_nil pure scope⟩
  · intro first second same
    have agree := expression.evaluate_agree (fun _ => id) same
    exact ⟨agree.result_eq, agree.states_related⟩

/-- The expression `(a = 2) / z`. -/
def assignedQuotient : Expression :=
  .binary .divide (.assignment "a" (.integer 2)) (.identifier "z")

/-- Variables of the names in `(a = 2) / z`, in front of one that holds an integer. -/
def besideInteger : Scope :=
  (Program.analyzeFrom [.declaration .integer "c" (some (.integer 5)),
    .declaration .integer "z" (some (.integer 0)), .declaration .integer "a" none] .empty).2

/-- The same variables in another order, behind one that holds nothing. -/
def besideNothing : Scope :=
  (Program.analyzeFrom [.declaration .integer "a" none,
    .declaration .integer "z" (some (.integer 0)), .declaration .real "c" none] .empty).2

/-- The quotient fails in both scopes after it has given `a` its value; `c` stays as it was, and reading
it changes nothing. -/
theorem evaluate_frame_assignedQuotient :
    "c" ∉ assignedQuotient.assignees ∧
    (assignedQuotient.evaluate besideInteger).2.get? "c" =
      some { type := .integer, value := some (.integer 5) } ∧
    (∀ name ∈ assignedQuotient.names, besideInteger.get? name = besideNothing.get? name) ∧
    (assignedQuotient.evaluate besideInteger).1 = .error .divisionByZero ∧
    (assignedQuotient.evaluate besideNothing).1 = .error .divisionByZero ∧
    (assignedQuotient.evaluate besideInteger).2.get? "a" =
      some { type := .integer, value := some (.integer 2) } ∧
    (identifier "c").assignees = [] ∧
    ((identifier "c").evaluate besideNothing).2 = besideNothing := by
  have spared : "c" ∉ assignedQuotient.assignees := by decide
  have same : ∀ name ∈ assignedQuotient.names,
      besideInteger.get? name = besideNothing.get? name := by
    decide +kernel
  have fails : (assignedQuotient.evaluate besideNothing).1 = .error .divisionByZero := by
    decide +kernel
  have assigned : (assignedQuotient.evaluate besideNothing).2.get? "a" =
      some { type := .integer, value := some (.integer 2) } := by
    decide +kernel
  obtain ⟨kept, decided⟩ := evaluate_frame assignedQuotient
  obtain ⟨result_eq, variables_eq⟩ := decided besideInteger besideNothing same
  refine ⟨spared, ((kept besideInteger).2.2.1 "c" spared).trans ?_, same, result_eq.trans fails,
    fails, (variables_eq "a" (by decide)).trans assigned, rfl,
    ((evaluate_frame (identifier "c")).1 besideNothing).2.2.2 rfl⟩
  decide +kernel

end Expression
end Luso
