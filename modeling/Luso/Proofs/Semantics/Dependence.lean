import Luso.Proofs.Semantics.WellTyped
import Luso.Proofs.Syntax.Names
import Mathlib.Data.List.Nodup

/-!
# What a statement depends on

The analysis of a statement changes only the variables that it writes: the one it declares and those
it assigns to.  What comes of it, also an error, is decided by the variables that it mentions.  So two
statements of which neither writes what the other mentions can be analysed in either order.
-/

namespace Luso

/-! ## Names that are written -/

/-- The names that an expression assigns to, from left to right. -/
def Expression.assignees : Expression → List String
  | .integer _ => []
  | .real _ => []
  | .identifier _ => []
  | .binary _ left right => left.assignees ++ right.assignees
  | .assignment name value => name :: value.assignees

theorem Expression.assignees_subset_names (expression : Expression) :
    expression.assignees ⊆ expression.names := by
  induction expression with
  | integer | real | identifier => simp [assignees]
  | binary operation left right leftInduction rightInduction =>
      apply List.append_subset.mpr
      constructor
      · exact List.subset_append_of_subset_left _ leftInduction
      · exact List.subset_append_of_subset_right _ rightInduction
  | assignment name value induction => exact List.cons_subset_cons name induction

namespace Statement

/-- The names that a statement assigns to. -/
def assignees : Statement → List String
  | .declaration _ _ none => []
  | .declaration _ _ (some initial) => initial.assignees
  | .print argument => argument.assignees
  | .expression value => value.assignees

/-- The names that a statement declares or assigns to. -/
def writtenNames (statement : Statement) : List String :=
  statement.declaredName?.toList ++ statement.assignees

instance (statement : Statement) (name : String) : Decidable (statement.Mentions name) :=
  inferInstanceAs (Decidable (_ ∨ _))

theorem mentions_of_mem_writtenNames {statement : Statement} {name : String}
    (written : name ∈ statement.writtenNames) : statement.Mentions name := by
  rcases List.mem_append.mp written with declared | assigned
  · exact .inl (Option.mem_toList.mp declared)
  · right
    rcases statement with ⟨type, target, _ | initial⟩ | argument | value
    · cases assigned
    all_goals exact Expression.assignees_subset_names _ assigned

/-- Neither of two statements writes a name that stands in the other. -/
structure Independent (first second : Statement) : Prop where
  /-- The second one does not mention what the first one writes. -/
  spared : ∀ name ∈ first.writtenNames, ¬second.Mentions name
  /-- The first one does not mention what the second one writes. -/
  sparing : ∀ name ∈ second.writtenNames, ¬first.Mentions name

theorem Independent.symm {first second : Statement} (independent : first.Independent second) :
    second.Independent first :=
  ⟨independent.sparing, independent.spared⟩

end Statement

/-! ## Single variables -/

namespace Scope

variable {first second third : Scope} {name : String} {within : String → Prop}

/-- Two scopes hold the same variables of some names. -/
def AgreeOn (within : String → Prop) (first second : Scope) : Prop :=
  ∀ name, within name → first.get? name = second.get? name

theorem AgreeOn.refl (scope : Scope) : scope.AgreeOn within scope :=
  fun _ _ => rfl

theorem AgreeOn.trans (agree : first.AgreeOn within second) (next : second.AgreeOn within third) :
    first.AgreeOn within third :=
  fun name inside => (agree name inside).trans (next name inside)

theorem contains_congr (same : first.get? name = second.get? name) :
    first.contains name = second.contains name := by
  rw [contains, contains, same]

theorem read_congr (same : first.get? name = second.get? name) :
    first.read name = second.read name := by
  rw [read, read, same]

theorem exists_declare_of_fresh {scope : Scope} (fresh : scope.contains name = false)
    (type : DataType) (value : Option Value) :
    ∃ result, scope.declare name type value = .ok result := by
  refine ⟨_, dif_neg ?_⟩
  rw [← contains_iff_mem_names, fresh]
  exact Bool.false_ne_true

theorem mem_entries_iff {scope : Scope} {entry : Variable} :
    (name, entry) ∈ scope.entries ↔ scope.get? name = some entry := by
  obtain ⟨entries, distinct⟩ := scope
  simp only [get?]
  induction entries with
  | nil => simp
  | cons first rest induction =>
      obtain ⟨firstFresh, restDistinct⟩ := List.nodup_cons.mp distinct
      rw [lookup_cons_eq_ite, List.mem_cons, induction restDistinct]
      by_cases own : name = first.1
      · have missing : rest.lookup name ≠ some entry := by
          intro found
          have member := (induction restDistinct).mpr found
          exact firstFresh (own ▸ List.mem_map_of_mem member)
        simp [own ▸ missing, own, Prod.ext_iff, eq_comm]
      · simp [own, Prod.ext_iff]

/-- Scopes that hold the same variables differ at most in the order of their declarations. -/
theorem entries_perm (same : ∀ name, first.get? name = second.get? name) :
    first.entries.Perm second.entries := by
  apply (List.perm_ext_iff_of_nodup (.of_map _ first.distinct) (.of_map _ second.distinct)).mpr
  rintro ⟨name, entry⟩
  rw [mem_entries_iff, mem_entries_iff, same]

end Scope

/-! ## Evaluation -/

theorem Agree.of_eq {ε α σ : Type} {states : σ → σ → Prop} {result : Except ε α} {state state' : σ}
    (related : states state state') : Agree Eq states (result, state) (result, state') := by
  cases result with
  | error error => exact .error error related
  | ok value => exact .ok rfl related

/-- Two attempts that agree have the same result. -/
theorem Agree.result_eq {ε α σ : Type} {states : σ → σ → Prop} {attempt attempt' : Except ε α × σ}
    (agree : Agree Eq states attempt attempt') : attempt.1 = attempt'.1 := by
  cases agree with
  | ok values _ => rw [values]
  | error error _ => rfl

theorem Agree.states_related {ε α σ : Type} {states : σ → σ → Prop}
    {attempt attempt' : Except ε α × σ} (agree : Agree Eq states attempt attempt') :
    states attempt.2 attempt'.2 := by
  cases agree with
  | ok _ related => exact related
  | error _ related => exact related

/-! ### What is changed -/

namespace Scope

variable {scope : Scope} {name : String} {within : String → Prop}

theorem agreeOn_store (outside : ¬within name) (value : Value) :
    scope.AgreeOn within (scope.store name value).2 := by
  intro other inside
  have apart : other ≠ name := fun same => outside (same ▸ inside)
  rw [store]
  split
  · rfl
  · rename_i after assigned
    obtain ⟨-, rfl⟩ := assign_eq_ok assigned
    simp [get?_update, apart]

theorem agreeOn_analyzeDeclaration (outside : ¬within name) (type : DataType)
    (initial : Option Value) :
    scope.AgreeOn within (Statement.analyzeDeclaration type name initial scope).2 := by
  intro other inside
  have apart : other ≠ name := fun same => outside (same ▸ inside)
  rw [Statement.analyzeDeclaration]
  obtain ⟨-, introduce_eq⟩ | ⟨value, -, -, -, introduce_eq⟩ |
    ⟨result, -, -, declared, introduce_eq⟩ := scope.introduce_cases type name initial
  · rw [introduce_eq]
  · rw [introduce_eq]
  · simp [introduce_eq, get?_of_declare declared, apart]

end Scope

/-- An expression changes only variables that it assigns to, also if its evaluation fails. -/
theorem Expression.agreeOn_evaluate {expression : Expression} {within : String → Prop}
    (outside : ∀ name ∈ expression.assignees, ¬within name) (scope : Scope) :
    scope.AgreeOn within (expression.evaluate scope).2 := by
  induction expression generalizing scope with
  | integer | real | identifier => exact .refl scope
  | binary operation left right leftInduction rightInduction =>
      rw [assignees, List.forall_mem_append] at outside
      rw [evaluate_binary]
      apply andThen_preserves (leftInduction outside.1 scope)
      intro _ middle kept
      exact andThen_preserves (kept.trans (rightInduction outside.2 middle)) fun _ _ kept => kept
  | assignment name assigned induction =>
      rw [assignees, List.forall_mem_cons] at outside
      rw [evaluate_assignment]
      split
      · apply andThen_preserves (induction outside.2 scope)
        intro value middle kept
        exact kept.trans (Scope.agreeOn_store outside.1 value)
      · exact .refl scope

/-- A statement changes only variables that it writes, also if it fails. -/
theorem Statement.agreeOn_analyze {statement : Statement} {within : String → Prop}
    (outside : ∀ name ∈ statement.writtenNames, ¬within name) (scope : Scope) :
    scope.AgreeOn within (statement.analyze scope).2 := by
  rw [writtenNames, List.forall_mem_append] at outside
  obtain ⟨declaredOutside, assigneesOutside⟩ := outside
  cases statement with
  | declaration type name initial =>
      have nameOutside : ¬within name := declaredOutside name (by simp [declaredName?])
      cases initial with
      | none => exact Scope.agreeOn_analyzeDeclaration nameOutside type none
      | some initial =>
          rw [analyze_declaration]
          apply andThen_preserves (initial.agreeOn_evaluate assigneesOutside scope)
          intro value middle kept
          exact kept.trans (Scope.agreeOn_analyzeDeclaration nameOutside type (some value))
  | print argument =>
      rw [analyze_print]
      exact andThen_preserves (argument.agreeOn_evaluate assigneesOutside scope)
        fun _ _ kept => kept
  | expression value =>
      rw [analyze_expression]
      exact andThen_preserves (value.agreeOn_evaluate assigneesOutside scope) fun _ _ kept => kept

/-! ### What decides -/

namespace Scope

variable {first second : Scope} {name : String} {within : String → Prop}

theorem AgreeOn.update (agree : first.AgreeOn within second) (name : String) (value : Value) :
    (first.update name value).AgreeOn within (second.update name value) := by
  intro other inside
  rw [get?_update, get?_update, agree other inside]

theorem AgreeOn.store (agree : first.AgreeOn within second) (inside : within name)
    (value : Value) :
    Agree Eq (AgreeOn within) (first.store name value) (second.store name value) := by
  rw [Scope.store, Scope.store, assign, assign, agree name inside]
  cases second.get? name with
  | none => exact .error _ agree
  | some entry =>
      by_cases typed : value.type = entry.type
      · simp only [typed, if_true]
        exact .ok rfl (agree.update name value)
      · simp only [typed, if_false]
        exact .error _ agree

theorem AgreeOn.introduce (agree : first.AgreeOn within second) (inside : within name)
    (type : DataType) (initial : Option Value) :
    Agree Eq (AgreeOn within) (Statement.analyzeDeclaration type name initial first)
      (Statement.analyzeDeclaration type name initial second) := by
  have declared (fresh : first.contains name = false) (value : Option Value) :
      ∃ result result', first.declare name type value = .ok result ∧
        second.declare name type value = .ok result' ∧ result.AgreeOn within result' := by
    obtain ⟨result, declare_eq⟩ := exists_declare_of_fresh fresh type value
    obtain ⟨result', declare_eq'⟩ :=
      exists_declare_of_fresh ((contains_congr (agree name inside)).symm.trans fresh) type value
    refine ⟨result, result', declare_eq, declare_eq', fun other otherInside => ?_⟩
    rw [get?_of_declare declare_eq, get?_of_declare declare_eq', agree other otherInside]
  rw [Statement.analyzeDeclaration, Statement.analyzeDeclaration, Scope.introduce.eq_def,
    Scope.introduce.eq_def, ← contains_congr (agree name inside)]
  cases known : first.contains name with
  | true => exact .error _ agree
  | false =>
      simp only [Bool.false_eq_true, if_false]
      cases initial with
      | none =>
          obtain ⟨result, result', declare_eq, declare_eq', related⟩ := declared known none
          simp only [declare_eq, declare_eq']
          exact .ok rfl related
      | some value =>
          by_cases typed : value.type = type
          · obtain ⟨result, result', declare_eq, declare_eq', related⟩ :=
              declared known (some value)
            simp only [typed, if_true, declare_eq, declare_eq']
            exact .ok rfl related
          · simp only [typed, if_false]
            exact .error _ agree

end Scope

/-- Scopes that agree on all names in an expression give the same value or error, and still agree
afterwards. -/
theorem Expression.evaluate_agree {expression : Expression} {within : String → Prop}
    (mentioned : ∀ name ∈ expression.names, within name) {first second : Scope}
    (agree : first.AgreeOn within second) :
    Agree Eq (Scope.AgreeOn within) (expression.evaluate first) (expression.evaluate second) := by
  induction expression generalizing first second with
  | integer | real => exact .ok rfl agree
  | identifier name =>
      rw [evaluate, evaluate, Scope.read_congr (agree name (mentioned name (by simp [names])))]
      exact .of_eq agree
  | binary operation left right leftInduction rightInduction =>
      rw [names, List.forall_mem_append] at mentioned
      rw [evaluate_binary, evaluate_binary]
      apply (leftInduction mentioned.1 agree).andThen
      rintro leftValue _ middle middle' - rfl agree
      apply (rightInduction mentioned.2 agree).andThen
      rintro rightValue _ after after' - rfl agree
      exact .of_eq agree
  | assignment name assigned induction =>
      rw [names, List.forall_mem_cons] at mentioned
      rw [evaluate_assignment, evaluate_assignment,
        Scope.contains_congr (agree name mentioned.1)]
      split
      · apply (induction mentioned.2 agree).andThen
        rintro value _ middle middle' - rfl agree
        exact agree.store mentioned.1 value
      · exact .error _ agree

/-! ## Statements -/

namespace Statement

/-- Scopes that agree on all names in a statement give the same result, and still agree afterwards. -/
theorem analyze_agree {statement : Statement} {first second : Scope}
    (agree : first.AgreeOn statement.Mentions second) :
    Agree Eq (Scope.AgreeOn statement.Mentions) (statement.analyze first)
      (statement.analyze second) := by
  have used : ∀ name ∈ statement.usedNames, statement.Mentions name := fun _ => .inr
  cases statement with
  | declaration type target initial =>
      have declared : (declaration type target initial).Mentions target := .inl rfl
      cases initial with
      | none => exact agree.introduce declared type none
      | some initial =>
          rw [analyze_declaration, analyze_declaration]
          apply (initial.evaluate_agree used agree).andThen
          rintro value _ middle middle' - rfl agree
          exact agree.introduce declared type (some value)
  | print argument =>
      rw [analyze_print, analyze_print]
      apply (argument.evaluate_agree used agree).andThen
      intro _ _ _ _ _ _ agree
      exact .ok rfl agree
  | expression value =>
      rw [analyze_expression, analyze_expression]
      apply (value.evaluate_agree used agree).andThen
      intro _ _ _ _ _ _ agree
      exact .ok rfl agree

/-! ## Two statements -/

variable {first second : Statement}

/-- What an independent statement does is not noticed by another one. -/
theorem Independent.agree (independent : first.Independent second) (scope : Scope) :
    Agree Eq (Scope.AgreeOn second.Mentions) (second.analyze scope)
      (second.analyze (first.analyze scope).2) :=
  analyze_agree (agreeOn_analyze independent.spared scope)

/-- Both orders leave the same variables. -/
theorem Independent.get?_eq (independent : first.Independent second) (scope : Scope)
    (name : String) :
    (second.analyze (first.analyze scope).2).2.get? name =
      (first.analyze (second.analyze scope).2).2.get? name := by
  have firstAgrees := (independent.symm.agree scope).states_related
  have secondAgrees := (independent.agree scope).states_related
  have kept {statement : Statement} (unwritten : name ∉ statement.writtenNames) (scope : Scope) :
      (statement.analyze scope).2.get? name = scope.get? name := by
    symm
    apply agreeOn_analyze (fun other written inside => ?_) scope name (Eq.refl name)
    exact unwritten (inside ▸ written)
  by_cases byFirst : name ∈ first.writtenNames
  · have notBySecond : name ∉ second.writtenNames :=
      independent.spared name byFirst ∘ mentions_of_mem_writtenNames
    rw [kept notBySecond, firstAgrees name (mentions_of_mem_writtenNames byFirst)]
  · rw [kept byFirst]
    by_cases bySecond : name ∈ second.writtenNames
    · exact (secondAgrees name (mentions_of_mem_writtenNames bySecond)).symm
    · rw [kept bySecond, kept bySecond, kept byFirst]

end Statement

theorem Program.analyzeFrom_singleton (statement : Statement) (scope : Scope) :
    analyzeFrom [statement] scope = statement.analyze scope := by
  rw [analyzeFrom_cons]
  obtain ⟨error | ⟨⟩, after⟩ := statement.analyze scope <;> rfl

/-- Two statements of which neither writes what the other mentions have the same results in either
order, also if one of them fails, and leave the same variables. -/
theorem analyzeFrom_commute {first second : Statement} (independent : first.Independent second)
    (scope : Scope) :
    (Program.analyzeFrom [first] (Program.analyzeFrom [second] scope).2).1 =
        (Program.analyzeFrom [first] scope).1 ∧
      (Program.analyzeFrom [second] (Program.analyzeFrom [first] scope).2).1 =
        (Program.analyzeFrom [second] scope).1 ∧
      (∀ name,
        (Program.analyzeFrom [second] (Program.analyzeFrom [first] scope).2).2.get? name =
          (Program.analyzeFrom [first] (Program.analyzeFrom [second] scope).2).2.get? name) ∧
      (Program.analyzeFrom [second] (Program.analyzeFrom [first] scope).2).2.entries.Perm
        (Program.analyzeFrom [first] (Program.analyzeFrom [second] scope).2).2.entries := by
  simp only [Program.analyzeFrom_singleton]
  have same := independent.get?_eq scope
  refine ⟨?_, ?_, same, Scope.entries_perm same⟩
  · exact (independent.symm.agree scope).result_eq.symm
  · exact (independent.agree scope).result_eq.symm

/-- A variable with a value, one without and a zero. -/
def startingValues : Program :=
  [.declaration .integer "b" (some (.integer 1)), .declaration .integer "c" none,
    .declaration .integer "d" (some (.integer 0))]

/-- The declaration `inteiro a = (b = 2) + 1`. -/
def assigningDeclaration : Statement :=
  .declaration .integer "a" (some (.binary .add (.assignment "b" (.integer 2)) (.integer 1)))

/-- The assignment `c = 1 / d`. -/
def dividingAssignment : Statement :=
  .expression (.assignment "c" (.binary .divide (.integer 1) (.identifier "d")))

/-- A declaration that assigns to a variable commutes with an assignment that divides by zero. -/
theorem analyzeFrom_commute_dividing :
    let scope := (Program.analyzeFrom startingValues .empty).2
    let declaredFirst := (Program.analyzeFrom [assigningDeclaration] scope).2
    let dividedFirst := (Program.analyzeFrom [dividingAssignment] scope).2
    assigningDeclaration.Independent dividingAssignment ∧
      (Program.analyzeFrom [assigningDeclaration] dividedFirst).1 = .ok () ∧
      (Program.analyzeFrom [dividingAssignment] declaredFirst).1 = .error .divisionByZero ∧
      (Program.analyzeFrom [dividingAssignment] declaredFirst).2.get? "b" =
        some { type := .integer, value := some (.integer 2) } ∧
      (Program.analyzeFrom [assigningDeclaration] dividedFirst).2.get? "b" =
        some { type := .integer, value := some (.integer 2) } := by
  intro scope declaredFirst dividedFirst
  have independent : assigningDeclaration.Independent dividingAssignment :=
    ⟨by decide, by decide⟩
  obtain ⟨declares, fails, same, -⟩ := analyzeFrom_commute independent scope
  have assigned : (Program.analyzeFrom [dividingAssignment] declaredFirst).2.get? "b" =
      some { type := .integer, value := some (.integer 2) } := by
    decide +kernel
  refine ⟨independent, declares.trans ?_, fails.trans ?_, assigned, (same "b").symm.trans assigned⟩
  all_goals decide +kernel

end Luso
