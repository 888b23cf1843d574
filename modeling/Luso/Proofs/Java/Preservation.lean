import Luso.Proofs.Java.Execution
import Luso.Proofs.Semantics.WellTyped
import Luso.Proofs.Syntax.Names

/-!
# The generated program does what the analysis did

The analysis brings integers into range where Java lets them wrap around.  As long as no operation
leaves the range, the generated program ends without a fault and leaves every variable with the
value that the analysis gave it.
-/

namespace Luso

/-! ## Conditions -/

/-- Whether the exact result of an operation fits 32 bits, if both operands are integers. -/
def Arithmetic.isInRange (operation : Arithmetic) : Value → Value → Bool
  | .integer left, .integer right =>
      let exact := operation.exact left.toInt right.toInt
      saturate exact == exact
  | _, _ => true

/-- Whether all operations that the evaluation of an expression carries out stay in range. -/
def Expression.isInRange : Expression → Scope → Bool
  | .binary operation left right, scope =>
      left.isInRange scope &&
        match left.evaluate scope with
        | (.error _, _) => true
        | (.ok leftValue, scope) =>
            right.isInRange scope &&
              match right.evaluate scope with
              | (.error _, _) => true
              | (.ok rightValue, _) => operation.isInRange leftValue rightValue
  | .assignment _ assigned, scope => assigned.isInRange scope
  | _, _ => true

/-- Whether all operations that a statement carries out stay in range. -/
def Statement.isInRange : Statement → Scope → Bool
  | .declaration _ _ initial, scope => initial.all (·.isInRange scope)
  | .print argument, scope => argument.isInRange scope
  | .expression value, scope => value.isInRange scope

/-- Whether all operations that the analysis of a program carries out stay in range. -/
def Program.isInRange : Program → Scope → Bool
  | [], _ => true
  | first :: rest, scope => first.isInRange scope && isInRange rest (first.analyze scope).2

/-- Whether Java has a way to write a number down. -/
def Binary64.isWritable : Binary64 → Bool
  | .finite _ _ => true
  | .infinite negative => !negative
  | .nan => false

/-- Whether Java has a way to write all literals of an expression down. -/
def Expression.isWritable : Expression → Bool
  | .real value => value.isWritable
  | .binary _ left right => left.isWritable && right.isWritable
  | .assignment _ assigned => assigned.isWritable
  | _ => true

/-- Whether Java has a way to write all literals of a statement down. -/
def Statement.isWritable : Statement → Bool
  | .declaration _ _ initial => initial.all Expression.isWritable
  | .print argument => argument.isWritable
  | .expression value => value.isWritable

/-- Whether Java has a way to write all literals of a program down. -/
def Program.isWritable (program : Program) : Bool :=
  program.all Statement.isWritable

/-- Different names are different in Java. -/
def StayDistinct (names : List String) : Prop :=
  ∀ first ∈ names, ∀ second ∈ names, javaName first = javaName second → first = second

instance (names : List String) : Decidable (StayDistinct names) :=
  inferInstanceAs (Decidable (∀ first ∈ names, ∀ second ∈ names,
    javaName first = javaName second → first = second))

/-! ## Values -/

theorem Arithmetic.wrap_eq_of_isInRange {operation : Arithmetic} {left right : Int32}
    (inRange : operation.isInRange (.integer left) (.integer right) = true) :
    operation.wrap left right =
      Int32.ofIntClamp (operation.exact left.toInt right.toInt) := by
  simp only [isInRange, beq_iff_eq] at inRange
  apply Int32.toInt.inj
  rw [toInt_wrap, toInt_ofIntClamp, inRange]
  rw [saturate] at inRange
  exact Int.bmod_eq_of_le (by omega) (by omega)

namespace Java

/-- Java computes what the analysis computes, if that is in range and no division by zero. -/
theorem combine_eq {operation : Arithmetic} {left right result : Value}
    (inRange : operation.isInRange left right = true)
    (combined : Value.combine? operation left right = some result) :
    combine operation left right = .ok result := by
  cases left with
  | integer left =>
      cases right with
      | integer right =>
          rw [Value.combine?_integer] at combined
          split at combined
          · cases combined
          · rename_i divisible
            have divisor_ne : ¬(operation = .divide ∧ right = 0) := by
              rintro ⟨division, rfl⟩
              exact divisible ⟨division, rfl⟩
            rw [combine, if_neg divisor_ne, Arithmetic.wrap_eq_of_isInRange inRange]
            exact congrArg _ (Option.some.inj combined)
      | real right =>
          rw [Value.combine?] at combined
          split at combined
          · cases combined
          · rw [combine, Option.some.inj combined]
            rintro _ _ _ ⟨⟩
  | real left =>
      rw [Value.combine?] at combined
      split at combined
      · cases combined
      · rw [combine, Option.some.inj combined]
        rintro _ _ ⟨⟩

theorem literal_eq {value : Binary64} (writable : value.isWritable = true) :
    literal value = .ok (.real value) := by
  cases value with
  | finite negative magnitude =>
      cases negative with
      | false => rw [literal, magnitude.toBinary64_shortest]
      | true =>
          rw [literal, magnitude.toBinary64_shortest]
          rfl
  | infinite negative =>
      cases negative with
      | false => rfl
      | true => cases writable
  | nan => cases writable

end Java

/-! ## Variables -/

/-- The local variables under the Java names of the given names are the variables of a scope, which
declares no others. -/
structure Mirrors (names : List String) (scope : Scope) (locals : Java.Locals) : Prop where
  /-- Only the given names are declared. -/
  declared : ∀ name, scope.contains name = true → name ∈ names
  /-- Each local variable is the one in the scope. -/
  locals_eq : ∀ name ∈ names, locals (javaName name) = scope.get? name

namespace Mirrors

variable {names : List String} {scope : Scope} {locals : Java.Locals} {name : String}

theorem empty (names : List String) : Mirrors names .empty .empty := by
  constructor
  · intro name declared
    cases declared
  · intro name _
    rfl

theorem read (mirrors : Mirrors names scope locals) {value : Value}
    (read_eq : scope.read name = .ok value) : locals.read (javaName name) = .ok value := by
  rw [Scope.read] at read_eq
  cases found : scope.get? name with
  | none =>
      rw [found] at read_eq
      cases read_eq
  | some entry =>
      have name_mem := mirrors.declared name (Scope.contains_of_get? found)
      rw [found] at read_eq
      rw [Java.Locals.read, mirrors.locals_eq name name_mem, found, Option.bind_some]
      cases holds : entry.value with
      | none => simp [holds] at read_eq
      | some held => simpa [holds] using read_eq

/-- Giving a declared variable a value is mirrored. -/
theorem update (mirrors : Mirrors names scope locals)
    (distinct : StayDistinct names)
    {entry : Variable} (found : scope.get? name = some entry) (value : Value) :
    Mirrors names (scope.update name value)
      (locals.set (javaName name) { entry with value := some value }) := by
  have name_mem := mirrors.declared name (Scope.contains_of_get? found)
  constructor
  · intro other declared
    rw [Scope.contains_update] at declared
    exact mirrors.declared other declared
  · intro other other_mem
    rw [Scope.get?_update, Java.Locals.set]
    by_cases same : other = name
    · subst same
      simp [found]
    · have apart : javaName other ≠ javaName name :=
        fun equal => same (distinct other other_mem name name_mem equal)
      simp [same, apart, mirrors.locals_eq other other_mem]

theorem store (mirrors : Mirrors names scope locals)
    (distinct : StayDistinct names)
    {value result : Value} {after : Scope} (stored : scope.store name value = (.ok result, after)) :
    ∃ locals', locals.store (javaName name) value = (.ok result, locals') ∧
      Mirrors names after locals' := by
  rw [Scope.store] at stored
  split at stored
  · cases stored
  · rename_i updated assign_eq
    cases stored
    obtain ⟨type_eq, rfl⟩ := Scope.assign_eq_ok assign_eq
    obtain ⟨entry, found, entry_type⟩ := Option.map_eq_some_iff.mp type_eq
    have name_mem := mirrors.declared name (Scope.contains_of_get? found)
    refine ⟨_, ?_, mirrors.update distinct found value⟩
    exact Java.Locals.store_of_type_eq ((mirrors.locals_eq name name_mem).trans found) entry_type

/-- Declaring a variable is mirrored. -/
theorem declare (mirrors : Mirrors names scope locals) (distinct : StayDistinct names)
    (name_mem : name ∈ names) {type : DataType} {initial : Option Value} {after : Scope}
    (declared : scope.declare name type initial = .ok after) :
    Mirrors names after (locals.set (javaName name) { type, value := initial }) := by
  constructor
  · intro other known
    rw [Scope.contains, Scope.get?_of_declare declared] at known
    split at known
    · rename_i same
      rwa [same]
    · exact mirrors.declared other known
  · intro other other_mem
    rw [Scope.get?_of_declare declared, Java.Locals.set]
    by_cases same : other = name
    · simp [same]
    · have apart : javaName other ≠ javaName name :=
        fun equal => same (distinct other other_mem name name_mem equal)
      simp [same, apart, mirrors.locals_eq other other_mem]

theorem locals_eq_none (mirrors : Mirrors names scope locals) (name_mem : name ∈ names)
    (fresh : scope.contains name = false) : locals (javaName name) = none := by
  rw [mirrors.locals_eq name name_mem]
  rw [Scope.contains] at fresh
  cases found : scope.get? name with
  | none => rfl
  | some entry =>
      rw [found] at fresh
      cases fresh

end Mirrors

/-! ## Simulation -/

section Simulation

variable {names : List String} (distinct : StayDistinct names)

include distinct

/-- What an expression evaluates to, its Java expression evaluates to as well. -/
theorem Expression.evaluate_toJava (expression : Expression) {scope after : Scope} {value : Value}
    {locals : Java.Locals} (evaluated : expression.evaluate scope = (.ok value, after))
    (inRange : expression.isInRange scope = true) (writable : expression.isWritable = true)
    (mirrors : Mirrors names scope locals) :
    ∃ locals', expression.toJava.evaluate locals = (.ok value, locals') ∧
      Mirrors names after locals' := by
  induction expression generalizing scope after value locals with
  | integer value =>
      cases evaluated
      exact ⟨locals, rfl, mirrors⟩
  | real value =>
      cases evaluated
      refine ⟨locals, ?_, mirrors⟩
      rw [toJava, Java.Expression.evaluate, Java.literal_eq writable]
  | identifier name =>
      obtain ⟨read_eq, rfl⟩ := Prod.mk.inj evaluated
      refine ⟨locals, ?_, mirrors⟩
      rw [toJava, Java.Expression.evaluate, mirrors.read read_eq]
  | binary operation left right leftInduction rightInduction =>
      rw [evaluate_binary] at evaluated
      obtain ⟨leftValue, middle, left_eq, rest_eq⟩ := andThen_eq_ok evaluated
      obtain ⟨rightValue, last, right_eq, combined⟩ := andThen_eq_ok rest_eq
      rw [isWritable, Bool.and_eq_true] at writable
      simp only [isInRange, left_eq, right_eq, Bool.and_eq_true] at inRange
      obtain ⟨leftInRange, rightInRange, operationInRange⟩ := inRange
      obtain ⟨leftLocals, leftRun, leftMirrors⟩ :=
        leftInduction left_eq leftInRange writable.1 mirrors
      obtain ⟨rightLocals, rightRun, rightMirrors⟩ :=
        rightInduction right_eq rightInRange writable.2 leftMirrors
      cases value_eq : Value.combine? operation leftValue rightValue with
      | none =>
          rw [value_eq] at combined
          cases combined
      | some result =>
          rw [value_eq] at combined
          cases combined
          refine ⟨rightLocals, ?_, rightMirrors⟩
          rw [toJava, Java.Expression.evaluate, leftRun, andThen_ok, rightRun, andThen_ok,
            Java.combine_eq operationInRange value_eq]
  | assignment name assigned induction =>
      rw [evaluate_assignment] at evaluated
      split at evaluated
      · obtain ⟨assignedValue, middle, assigned_eq, stored⟩ := andThen_eq_ok evaluated
        obtain ⟨middleLocals, assignedRun, middleMirrors⟩ :=
          induction assigned_eq inRange writable mirrors
        rw [toJava, Java.Expression.evaluate, assignedRun, andThen_ok]
        exact middleMirrors.store distinct stored
      · cases evaluated

theorem Statement.run_toJava (statement : Statement) {scope after : Scope} {locals : Java.Locals}
    (analyzed : statement.analyze scope = (.ok (), after))
    (inRange : statement.isInRange scope = true) (writable : statement.isWritable = true)
    (named : ∀ name, statement.declaredName? = some name → name ∈ names)
    (mirrors : Mirrors names scope locals) :
    ∃ locals', statement.toJava.run locals = (.ok (), locals') ∧ Mirrors names after locals' := by
  cases statement with
  | declaration type name initial =>
      have name_mem := named name rfl
      cases initial with
      | none =>
          rw [analyze] at analyzed
          obtain ⟨fresh, -, declared⟩ := analyzeDeclaration_eq_ok analyzed
          refine ⟨_, ?_, mirrors.declare distinct name_mem declared⟩
          exact Java.Locals.declare_of_fresh (mirrors.locals_eq_none name_mem fresh) type
      | some initial =>
          rw [analyze_declaration] at analyzed
          obtain ⟨value, middle, evaluated, introduced⟩ := andThen_eq_ok analyzed
          obtain ⟨fresh, type_eq, declared⟩ := analyzeDeclaration_eq_ok introduced
          obtain rfl := type_eq value rfl
          obtain ⟨locals', run_eq, middleMirrors⟩ :=
            initial.evaluate_toJava distinct evaluated inRange writable mirrors
          refine ⟨_, ?_, middleMirrors.declare distinct name_mem declared⟩
          have free := middleMirrors.locals_eq_none name_mem fresh
          rw [toJava, Option.map_some, Java.Statement.run, run_eq, andThen_ok,
            Java.Locals.introduce_of_type_eq free]
  | print argument =>
      rw [analyze_print] at analyzed
      obtain ⟨value, middle, evaluated, ended⟩ := andThen_eq_ok analyzed
      cases ended
      obtain ⟨locals', run_eq, mirrors'⟩ :=
        argument.evaluate_toJava distinct evaluated inRange writable mirrors
      refine ⟨locals', ?_, mirrors'⟩
      rw [toJava, Java.Statement.run, run_eq, andThen_ok]
  | expression value =>
      rw [analyze_expression] at analyzed
      obtain ⟨value, middle, evaluated, ended⟩ := andThen_eq_ok analyzed
      cases ended
      obtain ⟨locals', run_eq, mirrors'⟩ :=
        Expression.evaluate_toJava distinct _ evaluated inRange writable mirrors
      refine ⟨locals', ?_, mirrors'⟩
      rw [toJava, Java.Statement.run, run_eq, andThen_ok]

theorem Program.run_toJava (program : Program) {scope after : Scope} {locals : Java.Locals}
    (analyzed : Program.analyzeFrom program scope = (.ok (), after))
    (inRange : Program.isInRange program scope = true) (writable : program.isWritable = true)
    (named : ∀ name ∈ program.declaredNames, name ∈ names)
    (mirrors : Mirrors names scope locals) :
    ∃ locals', Java.run (program.map Statement.toJava) locals = (.ok (), locals') ∧
      Mirrors names after locals' := by
  induction program generalizing scope locals with
  | nil =>
      cases analyzed
      exact ⟨locals, rfl, mirrors⟩
  | cons first rest induction =>
      rw [analyzeFrom_cons] at analyzed
      obtain ⟨⟨⟩, middle, first_eq, rest_eq⟩ := andThen_eq_ok analyzed
      rw [isInRange, first_eq, Bool.and_eq_true] at inRange
      rw [isWritable, List.all_cons, Bool.and_eq_true] at writable
      have firstNamed (name : String) (declares : first.declaredName? = some name) :
          name ∈ names :=
        named name (List.mem_filterMap.mpr ⟨first, List.mem_cons_self, declares⟩)
      have restNamed (name : String) (declares : name ∈ Program.declaredNames rest) :
          name ∈ names := by
        obtain ⟨statement, member, declares⟩ := List.mem_filterMap.mp declares
        exact named name
          (List.mem_filterMap.mpr ⟨statement, List.mem_cons_of_mem _ member, declares⟩)
      obtain ⟨middleLocals, first_run, middleMirrors⟩ :=
        first.run_toJava distinct first_eq inRange.1 writable.1 firstNamed mirrors
      obtain ⟨locals', rest_run, afterMirrors⟩ :=
        induction rest_eq inRange.2 writable.2 restNamed middleMirrors
      refine ⟨locals', ?_, afterMirrors⟩
      rw [List.map_cons, Java.run, first_run, andThen_ok, rest_run]

end Simulation

/-- An accepted program whose operations stay in range, whose names stay distinct and whose literals
can be written runs without a fault and leaves every variable as the analysis left it. -/
theorem toJava_leaves_variables (program : Program) (className : String)
    (accepted : Program.analyze program = .ok ())
    (inRange : Program.isInRange program .empty = true)
    (distinct : StayDistinct program.declaredNames) (writable : program.isWritable = true) :
    ∃ locals, (program.toJava className).run = (.ok (), locals) ∧
      ∀ name entry, (Program.analyzeFrom program .empty).2.get? name = some entry →
        locals (javaName name) = some entry := by
  rw [Program.analyze] at accepted
  rcases analyzed : Program.analyzeFrom program .empty with ⟨result, after⟩
  rw [analyzed] at accepted
  obtain rfl := accepted
  obtain ⟨locals, run_eq, mirrors⟩ := program.run_toJava distinct analyzed inRange writable
    (fun _ declares => declares) (Mirrors.empty _)
  refine ⟨locals, run_eq, ?_⟩
  intro name entry found
  have name_mem := mirrors.declared name (Scope.contains_of_get? found)
  rw [mirrors.locals_eq name name_mem, found]

theorem accepted_of_toOption (program : Program)
    (ended : (Program.analyze program).toOption = some ()) : Program.analyze program = .ok () := by
  cases result : Program.analyze program with
  | error error =>
      rw [result] at ended
      cases ended
  | ok => rfl

/-- A quotient of integers, and a decimal made of it. -/
def truncatedQuotient : Program :=
  [.declaration .integer "a" (some (.binary .divide (.integer 7) (.integer (-2)))),
    .declaration .real "b" none,
    .expression (.assignment "b"
      (.binary .multiply (.identifier "a") (.real (.ofDecimal false 5 (-1)))))]

theorem toJava_truncatedQuotient :
    Program.analyze truncatedQuotient = .ok () ∧
      Program.isInRange truncatedQuotient .empty = true ∧
      StayDistinct truncatedQuotient.declaredNames ∧ truncatedQuotient.isWritable = true ∧
      ∃ locals, (truncatedQuotient.toJava "Main").run = (.ok (), locals) ∧
        locals "a" = some { type := .integer, value := some (.integer (-3)) } ∧
        locals "b" = some { type := .real, value := some (.real (.ofDecimal true 15 (-1))) } := by
  have accepted := accepted_of_toOption truncatedQuotient (by decide +kernel)
  have inRange : Program.isInRange truncatedQuotient .empty = true := by decide +kernel
  have distinct : StayDistinct truncatedQuotient.declaredNames := by decide +kernel
  have writable : truncatedQuotient.isWritable = true := by decide +kernel
  have names_eq : javaName "a" = "a" ∧ javaName "b" = "b" := by decide +kernel
  obtain ⟨locals, run_eq, same⟩ :=
    toJava_leaves_variables truncatedQuotient "Main" accepted inRange distinct writable
  have first := same "a" { type := .integer, value := some (.integer (-3)) } (by decide +kernel)
  have second := same "b" { type := .real, value := some (.real (.ofDecimal true 15 (-1))) }
    (by decide +kernel)
  rw [names_eq.1] at first
  rw [names_eq.2] at second
  exact ⟨accepted, inRange, distinct, writable, locals, run_eq, first, second⟩

/-- A sum that is out of range. -/
def saturatedSum : Program :=
  [.declaration .integer "a" (some (.binary .add (.integer 2147483647) (.integer 1)))]

/-- Out of range the analysis saturates, and Java wraps around. -/
theorem toJava_saturatedSum :
    ¬∀ (program : Program) (className : String), Program.analyze program = .ok () →
      ∃ locals, (program.toJava className).run = (.ok (), locals) ∧
        ∀ name entry, (Program.analyzeFrom program .empty).2.get? name = some entry →
          locals (javaName name) = some entry := by
  intro preserved
  have accepted := accepted_of_toOption saturatedSum (by decide +kernel)
  obtain ⟨locals, run_eq, same⟩ := preserved saturatedSum "Main" accepted
  have saturated := same "a" { type := .integer, value := some (.integer 2147483647) }
    (by decide +kernel)
  have wrapped : (saturatedSum.toJava "Main").run.2 (javaName "a") =
      some { type := .integer, value := some (.integer (-2147483648)) } := by decide +kernel
  rw [run_eq] at wrapped
  have different := saturated.symm.trans wrapped
  revert different
  decide

end Luso
