import Luso.Proofs.Number.Saturation
import Luso.Proofs.Semantics.WellTyped

/-!
# Programs of integers

A program without decimals can be reckoned with whole numbers alone: every operation is carried out
exactly and its result brought into the range of 32 bits.
-/

namespace Luso

/-- The variables of a program of integers, each with the number it holds, if any. -/
abbrev Table := String → Option (Option Int)

namespace Table

/-- No variables. -/
def empty : Table :=
  fun _ => none

/-- What the variable of the given name holds. -/
def read (table : Table) (name : String) : Except SemanticError Int :=
  match table name with
  | none => .error (.undeclaredIdentifier name)
  | some none => .error (.uninitializedIdentifier name)
  | some (some number) => .ok number

/-- The table with one variable added or replaced. -/
def set (table : Table) (name : String) (held : Option Int) : Table :=
  fun other => if other = name then some held else table other

end Table

/-- The result of an operation on integers. -/
def Arithmetic.reckon (operation : Arithmetic) (left right : Int) : Except SemanticError Int :=
  if operation = .divide ∧ right = 0 then .error .divisionByZero
  else .ok (saturate (operation.exact left right))

/-- The number that an expression stands for, and the variables after its assignments.  A decimal
literal, which no program of integers contains, counts as zero. -/
def Expression.reckon : Expression → Table → Except SemanticError Int × Table
  | .integer value, table => (.ok value.toInt, table)
  | .real _, table => (.ok 0, table)
  | .identifier name, table => (table.read name, table)
  | .binary operation left right, table =>
      andThen (left.reckon table) fun leftNumber table =>
        andThen (right.reckon table) fun rightNumber table =>
          (operation.reckon leftNumber rightNumber, table)
  | .assignment name assigned, table =>
      if (table name).isSome then
        andThen (assigned.reckon table) fun number table =>
          (.ok number, table.set name (some number))
      else
        (.error (.undeclaredIdentifier name), table)

/-- Declare a variable with its first number, if it has one. -/
def Table.introduce (table : Table) (name : String) (initial : Option Int) :
    Except SemanticError Unit × Table :=
  if (table name).isSome then (.error (.redeclaration name), table)
  else (.ok (), table.set name initial)

/-- Reckon a statement.  All variables are taken for integers. -/
def Statement.reckon : Statement → Table → Except SemanticError Unit × Table
  | .declaration _ name none, table => table.introduce name none
  | .declaration _ name (some initial), table =>
      andThen (initial.reckon table) fun number table => table.introduce name (some number)
  | .print argument, table => andThen (argument.reckon table) fun _ table => (.ok (), table)
  | .expression value, table => andThen (value.reckon table) fun _ table => (.ok (), table)

/-- Reckon the statements of a program in order, up to the first error. -/
def Program.reckon : Program → Table → Except SemanticError Unit × Table
  | [], table => (.ok (), table)
  | first :: rest, table => andThen (first.reckon table) fun _ table => reckon rest table

/-! ## Programs without decimals -/

/-- Whether an expression contains no decimal literal. -/
def Expression.isIntegral : Expression → Bool
  | .integer _ => true
  | .real _ => false
  | .identifier _ => true
  | .binary _ left right => left.isIntegral && right.isIntegral
  | .assignment _ value => value.isIntegral

/-- Whether a statement contains no decimal literal and declares no decimal variable. -/
def Statement.isIntegral : Statement → Bool
  | .declaration type _ initial => type == .integer && initial.all Expression.isIntegral
  | .print argument => argument.isIntegral
  | .expression value => value.isIntegral

/-- Whether a program contains no decimal literal and declares no decimal variable. -/
def Program.isIntegral (program : Program) : Bool :=
  program.all Statement.isIntegral

/-! ## The analysis reckons -/

/-- A value is the given integer. -/
def Value.IsNumber (value : Value) (number : Int) : Prop :=
  ∃ integer, value = .integer integer ∧ integer.toInt = number

/-- A variable is declared for integers and holds the given number, or holds none if none is
given. -/
def Variable.Keeps (entry : Variable) (held : Option Int) : Prop :=
  entry.type = .integer ∧ Option.Rel Value.IsNumber entry.value held

/-- The same variables are declared in a scope as in a table, and hold the same numbers. -/
def Scope.Keeps (scope : Scope) (table : Table) : Prop :=
  ∀ name, Option.Rel Variable.Keeps (scope.get? name) (table name)

/-- The value of an expression and of its reckoning are the same, or they fail alike. -/
abbrev SameNumber : Except SemanticError Value × Scope → Except SemanticError Int × Table → Prop :=
  Agree Value.IsNumber Scope.Keeps

/-- A statement and its reckoning succeed alike. -/
abbrev SameEnd : Except SemanticError Unit × Scope → Except SemanticError Unit × Table → Prop :=
  Agree Eq Scope.Keeps

theorem Scope.keeps_empty : Scope.empty.Keeps .empty :=
  fun _ => .none

theorem Value.IsNumber.type_eq {value : Value} {number : Int} (same : value.IsNumber number) :
    value.type = .integer := by
  obtain ⟨integer, rfl, -⟩ := same
  rfl

theorem Value.IsNumber.combine {operation : Arithmetic} {left right : Value} {number number' : Int}
    (sameLeft : left.IsNumber number) (sameRight : right.IsNumber number') {scope : Scope}
    {table : Table} (keeps : scope.Keeps table) :
    SameNumber ((combine? operation left right).elim (.error .divisionByZero) .ok, scope)
      (operation.reckon number number', table) := by
  obtain ⟨integer, rfl, rfl⟩ := sameLeft
  obtain ⟨integer', rfl, rfl⟩ := sameRight
  rw [combine?_integer, Arithmetic.reckon]
  split
  · exact .error _ keeps
  · exact .ok ⟨_, rfl, toInt_ofIntClamp _⟩ keeps

namespace Scope.Keeps

variable {scope : Scope} {table : Table} {name : String}

theorem read (keeps : scope.Keeps table) (name : String) :
    SameNumber (scope.read name, scope) (table.read name, table) := by
  have kept := keeps name
  rw [Scope.read, Table.read]
  generalize scope.get? name = entry at kept ⊢
  generalize table name = held at kept ⊢
  cases kept with
  | none => exact .error _ keeps
  | @some entry held kept =>
      obtain ⟨-, same⟩ := kept
      dsimp only
      generalize entry.value = value at same ⊢
      cases same with
      | none => exact .error _ keeps
      | some same => exact .ok same keeps

theorem contains_eq (keeps : scope.Keeps table) (name : String) :
    scope.contains name = (table name).isSome := by
  have kept := keeps name
  rw [contains]
  generalize scope.get? name = entry at kept ⊢
  generalize table name = held at kept ⊢
  cases kept <;> rfl

theorem update (keeps : scope.Keeps table) {value : Value} {number : Int}
    (same : value.IsNumber number) (declared : scope.contains name = true) :
    (scope.update name value).Keeps (table.set name (some number)) := by
  intro other
  have kept := keeps other
  rw [get?_update, Table.set]
  by_cases target : other = name
  · subst target
    rw [contains] at declared
    simp only [if_true]
    generalize scope.get? other = entry at kept declared ⊢
    generalize table other = before at kept
    cases kept with
    | none => cases declared
    | some kept => exact .some ⟨kept.1, .some same⟩
  · simp only [if_neg target, Option.map_id']
    exact kept

theorem store (keeps : scope.Keeps table) {value : Value} {number : Int}
    (same : value.IsNumber number) (declared : scope.contains name = true) :
    SameNumber (scope.store name value) (.ok number, table.set name (some number)) := by
  have kept := keeps name
  have updated := keeps.update same declared
  rw [contains] at declared
  rw [Scope.store, assign]
  generalize scope.get? name = entry at kept declared ⊢
  generalize table name = before at kept
  cases kept with
  | none => cases declared
  | some kept =>
      simp only [kept.1, same.type_eq, if_true]
      exact .ok same updated

theorem declare (keeps : scope.Keeps table) {result : Scope} {initial : Option Value}
    {held : Option Int} (same : Option.Rel Value.IsNumber initial held)
    (declared : scope.declare name .integer initial = .ok result) :
    result.Keeps (table.set name held) := by
  intro other
  rw [get?_of_declare declared, Table.set]
  split
  · exact .some ⟨rfl, same⟩
  · exact keeps other

end Scope.Keeps

theorem Expression.contains_of_evaluate {expression : Expression} {scope after : Scope}
    {result : Except SemanticError Value} (evaluated : expression.evaluate scope = (result, after))
    (name : String) : after.contains name = scope.contains name := by
  rw [Scope.contains_eq_isSome_typeOf?, Scope.contains_eq_isSome_typeOf?,
    typeOf?_of_evaluate evaluated]

theorem Expression.evaluate_reckoned (expression : Expression)
    (integral : expression.isIntegral = true) {scope : Scope} {table : Table}
    (keeps : scope.Keeps table) :
    SameNumber (expression.evaluate scope) (expression.reckon table) := by
  induction expression generalizing scope table with
  | integer value => exact .ok ⟨value, rfl, rfl⟩ keeps
  | real value => cases integral
  | identifier name => exact keeps.read name
  | binary operation left right leftInduction rightInduction =>
      rw [isIntegral, Bool.and_eq_true] at integral
      rw [evaluate_binary, reckon]
      refine (leftInduction integral.1 keeps).andThen fun _ sameLeft middleKeeps => ?_
      refine (rightInduction integral.2 middleKeeps).andThen fun _ sameRight afterKeeps => ?_
      exact sameLeft.combine sameRight afterKeeps
  | assignment name assigned induction =>
      rw [isIntegral] at integral
      rw [evaluate_assignment, reckon, ← keeps.contains_eq]
      split
      · rename_i declared
        refine (induction integral keeps).andThen fun evaluated same afterKeeps => ?_
        exact afterKeeps.store same (by rw [contains_of_evaluate evaluated, declared])
      · exact .error _ keeps

namespace Statement

theorem analyzeDeclaration_reckoned (name : String) {initial : Option Value} {held : Option Int}
    (same : Option.Rel Value.IsNumber initial held) {scope : Scope} {table : Table}
    (keeps : scope.Keeps table) :
    SameEnd (analyzeDeclaration .integer name initial scope) (table.introduce name held) := by
  rw [analyzeDeclaration, Table.introduce, ← keeps.contains_eq]
  obtain ⟨known, introduce_eq⟩ | ⟨value, fresh, rfl, type_ne, -⟩ |
    ⟨result, fresh, -, declared, introduce_eq⟩ := scope.introduce_cases .integer name initial
  · rw [introduce_eq, if_pos known]
    exact .error _ keeps
  · cases same with
    | some same => exact absurd same.type_eq type_ne
  · rw [introduce_eq, if_neg (by simp [fresh])]
    exact .ok rfl (keeps.declare same declared)

theorem analyze_reckoned (statement : Statement) (integral : statement.isIntegral = true)
    {scope : Scope} {table : Table} (keeps : scope.Keeps table) :
    SameEnd (statement.analyze scope) (statement.reckon table) := by
  cases statement with
  | declaration type name initial =>
      rw [isIntegral, Bool.and_eq_true, beq_iff_eq] at integral
      obtain ⟨rfl, initialIntegral⟩ := integral
      cases initial with
      | none => exact analyzeDeclaration_reckoned name .none keeps
      | some initial =>
          rw [analyze_declaration, reckon]
          exact (initial.evaluate_reckoned initialIntegral keeps).andThen
            fun _ same afterKeeps => analyzeDeclaration_reckoned name (.some same) afterKeeps
  | print argument =>
      rw [analyze_print, reckon]
      exact (argument.evaluate_reckoned integral keeps).andThen
        fun _ _ afterKeeps => .ok rfl afterKeeps
  | expression value =>
      rw [analyze_expression, reckon]
      exact (value.evaluate_reckoned integral keeps).andThen
        fun _ _ afterKeeps => .ok rfl afterKeeps

end Statement

theorem Program.analyzeFrom_reckoned (program : Program) (integral : program.isIntegral = true)
    {scope : Scope} {table : Table} (keeps : scope.Keeps table) :
    SameEnd (Program.analyzeFrom program scope) (Program.reckon program table) := by
  induction program generalizing scope table with
  | nil => exact .ok rfl keeps
  | cons first rest induction =>
      rw [isIntegral, List.all_cons, Bool.and_eq_true] at integral
      rw [analyzeFrom_cons, reckon]
      exact (first.analyze_reckoned integral.1 keeps).andThen
        fun _ _ middleKeeps => induction integral.2 middleKeeps

/-- A program without decimals ends as its reckoning with whole numbers does, and leaves the same
variables with the same numbers. -/
theorem analyze_eq_reckon (program : Program) (integral : program.isIntegral = true) :
    (Program.analyzeFrom program .empty).1 = (Program.reckon program .empty).1 ∧
      (Program.analyzeFrom program .empty).2.Keeps (Program.reckon program .empty).2 := by
  have same := program.analyzeFrom_reckoned integral Scope.keeps_empty
  generalize Program.analyzeFrom program .empty = outcome at same ⊢
  generalize Program.reckon program .empty = reckoned at same ⊢
  cases same with
  | ok sameResult keeps => exact ⟨congrArg _ sameResult, keeps⟩
  | error error keeps => exact ⟨rfl, keeps⟩

/-- A square that is out of range, and a negative quotient made of it. -/
def saturatedSquare : Program :=
  [.declaration .integer "a" (some (.binary .multiply (.integer 65536) (.integer 65536))),
    .declaration .integer "b" (some (.binary .divide
      (.binary .subtract (.integer 3) (.identifier "a")) (.integer 5)))]

theorem analyze_saturatedSquare :
    saturatedSquare.isIntegral = true ∧
      (Program.analyzeFrom saturatedSquare .empty).1 = .ok () ∧
      (Program.analyzeFrom saturatedSquare .empty).2.Keeps
        ((Table.empty.set "a" (some 2147483647)).set "b" (some (-429496728))) :=
  ⟨rfl, analyze_eq_reckon saturatedSquare rfl⟩

end Luso
