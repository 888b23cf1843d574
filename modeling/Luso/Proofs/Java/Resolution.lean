import Luso.Proofs.Compilation
import Luso.Proofs.Java.Preservation
import Luso.Proofs.Semantics.Growth
import Luso.Proofs.Text.Ascii
import Mathlib.Data.List.Nodup

/-!
# What the names in a generated program stand for

An accepted program declares every variable once and before its first use.  This carries over to its
Java class exactly if different variables have different Java names.
-/

namespace Luso

/-! ## Declared before used -/

theorem Expression.names_of_evaluate {expression : Expression} {scope after : Scope}
    {result : Except SemanticError Value} (evaluated : expression.evaluate scope = (result, after)) :
    after.names = scope.names := by
  have steps := expression.assignments_evaluate scope
  rw [evaluated] at steps
  exact steps.names_eq

theorem Scope.mem_names_of_read {scope : Scope} {name : String} {value : Value}
    (read_eq : scope.read name = .ok value) : name ∈ scope.names := by
  rw [← contains_iff_mem_names, contains]
  rw [read] at read_eq
  cases found : scope.get? name with
  | none =>
      rw [found] at read_eq
      cases read_eq
  | some entry => rfl

/-- Only declared variables are read and assigned to. -/
theorem Expression.mem_names_of_evaluate {expression : Expression} {scope after : Scope}
    {value : Value} (evaluated : expression.evaluate scope = (.ok value, after)) {name : String}
    (used : name ∈ expression.names) : name ∈ scope.names := by
  induction expression generalizing scope after value with
  | integer | real => cases used
  | identifier =>
      obtain rfl := List.mem_singleton.mp used
      exact Scope.mem_names_of_read (congrArg Prod.fst evaluated)
  | binary operation left right leftInduction rightInduction =>
      rw [evaluate_binary] at evaluated
      obtain ⟨leftValue, middle, left_eq, rest_eq⟩ := andThen_eq_ok evaluated
      obtain ⟨rightValue, last, right_eq, -⟩ := andThen_eq_ok rest_eq
      rcases List.mem_append.mp used with inLeft | inRight
      · exact leftInduction left_eq inLeft
      · -- The left operand is evaluated first and declares nothing.
        rw [← names_of_evaluate left_eq]
        exact rightInduction right_eq inRight
  | assignment target assigned induction =>
      rw [evaluate_assignment] at evaluated
      split at evaluated
      · rename_i declared
        obtain ⟨assignedValue, middle, assigned_eq, -⟩ := andThen_eq_ok evaluated
        rcases List.mem_cons.mp used with rfl | inValue
        · exact (scope.contains_iff_mem_names _).mp declared
        · exact induction assigned_eq inValue
      · cases evaluated

theorem Statement.mem_names_of_analyze {statement : Statement} {scope after : Scope}
    (analyzed : statement.analyze scope = (.ok (), after)) {name : String}
    (used : name ∈ statement.usedNames) : name ∈ scope.names := by
  cases statement with
  | declaration type declared initial =>
      cases initial with
      | none => cases used
      | some initial =>
          rw [analyze_declaration] at analyzed
          obtain ⟨value, middle, evaluated, -⟩ := andThen_eq_ok analyzed
          exact Expression.mem_names_of_evaluate evaluated used
  | print argument =>
      rw [analyze_print] at analyzed
      obtain ⟨value, middle, evaluated, -⟩ := andThen_eq_ok analyzed
      exact Expression.mem_names_of_evaluate evaluated used
  | expression value =>
      rw [analyze_expression] at analyzed
      obtain ⟨value, middle, evaluated, -⟩ := andThen_eq_ok analyzed
      exact Expression.mem_names_of_evaluate evaluated used

namespace Program

theorem declared_before {program : Program} {scope after : Scope}
    (analyzed : analyzeFrom program scope = (.ok (), after)) {index : Nat} {name : String}
    (used : program.Uses index name) :
    (∃ earlier < index, program.Declares earlier name) ∨ name ∈ scope.names := by
  induction program generalizing scope index with
  | nil =>
      obtain ⟨statement, found, -⟩ := used
      cases found
  | cons first rest induction =>
      rw [analyzeFrom_cons] at analyzed
      obtain ⟨⟨⟩, middle, first_eq, rest_eq⟩ := andThen_eq_ok analyzed
      obtain ⟨statement, found, inStatement⟩ := used
      cases index with
      | zero =>
          obtain rfl := Option.some.inj found
          exact .inr (Statement.mem_names_of_analyze first_eq inStatement)
      | succ index =>
          have changes := first.changes_analyze scope
          rw [first_eq] at changes
          have names_eq := changes.names_of_ok
          rcases induction rest_eq ⟨statement, found, inStatement⟩ with
            ⟨earlier, isEarlier, declares⟩ | inMiddle
          · exact .inl ⟨earlier + 1, Nat.succ_lt_succ isEarlier, declares⟩
          · rw [names_eq, List.mem_append, Option.mem_toList] at inMiddle
            rcases inMiddle with byFirst | known
            · exact .inl ⟨0, Nat.succ_pos index, first, rfl, byFirst⟩
            · exact .inr known

/-- An accepted program declares no name twice. -/
theorem nodup_declaredNames {program : Program} {after : Scope}
    (analyzed : analyzeFrom program .empty = (.ok (), after)) : program.declaredNames.Nodup := by
  have names_eq := program.names_analyzeFrom .empty
  rw [passed_of_analyzeFrom analyzed] at names_eq
  have distinct : (analyzeFrom program .empty).2.names.Nodup := (analyzeFrom program .empty).2.distinct
  rw [names_eq, List.nodup_append] at distinct
  exact List.nodup_reverse.mp distinct.1

end Program

/-! ## Names in Java -/

namespace Java

/-- The local variables that an expression reads or assigns to, from left to right. -/
def Expression.names : Expression → List String
  | .int _ => []
  | .double _ => []
  | .name text => [text]
  | .binary _ left right => left.names ++ right.names
  | .assignment target value => target :: value.names

/-- The local variables that a statement reads or assigns to. -/
def Statement.usedNames : Statement → List String
  | .declaration _ _ none => []
  | .declaration _ _ (some initial) => initial.names
  | .println argument => argument.names
  | .expression value => value.names

/-- The local variable that a statement declares. -/
def Statement.declaredName? : Statement → Option String
  | .declaration _ name _ => some name
  | _ => none

namespace MainClass

/-- The local variables that `main` declares. -/
def declaredNames (mainClass : MainClass) : List String :=
  mainClass.body.filterMap Statement.declaredName?

/-- The statement of `main` with the given index declares a local variable. -/
def Declares (mainClass : MainClass) (index : Nat) (name : String) : Prop :=
  ∃ statement, mainClass.body[index]? = some statement ∧ statement.declaredName? = some name

/-- The statement of `main` with the given index reads a local variable or assigns to it. -/
def Uses (mainClass : MainClass) (index : Nat) (name : String) : Prop :=
  ∃ statement, mainClass.body[index]? = some statement ∧ name ∈ statement.usedNames

/-- Where no local variable is declared twice, there is one declaration for each. -/
theorem Declares.unique {mainClass : MainClass} {index other : Nat} {name : String}
    (declares : mainClass.Declares index name) (again : mainClass.Declares other name)
    (distinct : mainClass.declaredNames.Nodup) : other = index := by
  obtain ⟨statement, found, name_eq⟩ := declares
  obtain ⟨repeated, again_found, again_eq⟩ := again
  obtain ⟨index_lt, rfl⟩ := List.getElem?_eq_some_iff.mp found
  obtain ⟨other_lt, rfl⟩ := List.getElem?_eq_some_iff.mp again_found
  rw [declaredNames, List.Nodup, List.pairwise_filterMap, List.pairwise_iff_getElem] at distinct
  rcases Nat.lt_trichotomy other index with before | same | behind
  · exact absurd rfl (distinct other index other_lt index_lt before _ again_eq _ name_eq)
  · exact same
  · exact absurd rfl (distinct index other index_lt other_lt behind _ name_eq _ again_eq)

end MainClass
end Java

theorem Expression.names_toJava (expression : Expression) :
    expression.toJava.names = expression.names.map javaName := by
  induction expression with
  | integer | real | identifier => rfl
  | binary operation left right leftInduction rightInduction =>
      rw [toJava, Java.Expression.names, leftInduction, rightInduction, names, List.map_append]
  | assignment name value induction =>
      rw [toJava, Java.Expression.names, induction, names, List.map_cons]

namespace Statement

theorem usedNames_toJava (statement : Statement) :
    statement.toJava.usedNames = statement.usedNames.map javaName := by
  cases statement with
  | declaration type name initial =>
      cases initial with
      | none => rfl
      | some initial => exact initial.names_toJava
  | print argument => exact argument.names_toJava
  | expression value => exact value.names_toJava

theorem declaredName?_toJava (statement : Statement) :
    statement.toJava.declaredName? = statement.declaredName?.map javaName := by
  cases statement <;> rfl

end Statement

namespace Program

variable {program : Program} {className : String} {index : Nat} {name : String}

theorem declaredNames_toJava (program : Program) (className : String) :
    (program.toJava className).declaredNames = program.declaredNames.map javaName := by
  rw [Java.MainClass.declaredNames, toJava, List.filterMap_map, declaredNames, List.map_filterMap]
  exact List.filterMap_congr fun statement _ => statement.declaredName?_toJava

theorem Declares.toJava (declares : program.Declares index name) (className : String) :
    (program.toJava className).Declares index (javaName name) := by
  obtain ⟨statement, found, name_eq⟩ := declares
  refine ⟨statement.toJava, ?_, ?_⟩
  · rw [Program.toJava, List.getElem?_map, found, Option.map_some]
  · rw [statement.declaredName?_toJava, name_eq, Option.map_some]

theorem uses_of_toJava {spelling : String} (used : (program.toJava className).Uses index spelling) :
    ∃ name, program.Uses index name ∧ javaName name = spelling := by
  obtain ⟨generated, found, inGenerated⟩ := used
  rw [toJava, List.getElem?_map] at found
  obtain ⟨statement, source_found, rfl⟩ := Option.map_eq_some_iff.mp found
  rw [statement.usedNames_toJava] at inGenerated
  obtain ⟨name, inStatement, rfl⟩ := List.mem_map.mp inGenerated
  exact ⟨name, ⟨statement, source_found, inStatement⟩, rfl⟩

end Program

/-! ## Accepted programs -/

/-- Names without accents and without letters beyond ASCII stay distinct. -/
theorem stayDistinct_of_isAscii {names : List String}
    (ascii : ∀ name ∈ names, ∀ character ∈ name.toList, Text.isAscii character = true) :
    StayDistinct names := by
  intro first first_mem second second_mem same
  rwa [javaName, javaName, Text.removeAccents_of_isAscii (ascii first first_mem),
    Text.removeAccents_of_isAscii (ascii second second_mem)] at same

/-- The class for a source text declares no local variable twice exactly if the names in the source
text stay distinct.  If they do, every local variable that is read or assigned to is declared by an
earlier statement and by no other one, and that statement declares the variable of the source text. -/
theorem compileSource_resolves {source className text : String}
    (compiled : compileSource source className = .ok text) :
    ∃ program, checkSource source = .ok program ∧ text = (program.toJava className).text ∧
      program.declaredNames.Nodup ∧
      ((program.toJava className).declaredNames.Nodup ↔ StayDistinct program.declaredNames) ∧
      (StayDistinct program.declaredNames →
        ∀ index spelling, (program.toJava className).Uses index spelling →
          ∃ name earlier, program.Uses index name ∧ javaName name = spelling ∧
            earlier < index ∧ program.Declares earlier name ∧
            ∀ other, (program.toJava className).Declares other spelling ↔ other = earlier) := by
  obtain ⟨program, checked, text_eq⟩ := compileSource_eq_ok_iff.mp compiled
  obtain ⟨after, analyzed⟩ := analyzeFrom_of_checkSource checked
  have once := Program.nodup_declaredNames analyzed
  have distinct_iff :
      (program.toJava className).declaredNames.Nodup ↔ StayDistinct program.declaredNames := by
    rw [program.declaredNames_toJava className]
    exact List.nodup_map_iff_inj_on once
  refine ⟨program, checked, text_eq, once, distinct_iff, ?_⟩
  intro distinct index spelling usedInJava
  obtain ⟨name, used, rfl⟩ := Program.uses_of_toJava usedInJava
  obtain ⟨earlier, isEarlier, declares⟩ | inEmpty := Program.declared_before analyzed used
  · refine ⟨name, earlier, used, rfl, isEarlier, declares, fun other => ⟨fun again => ?_, ?_⟩⟩
    · exact (declares.toJava className).unique again (distinct_iff.mpr distinct)
    · rintro rfl
      exact declares.toJava className
  · cases inEmpty

/-- A variable with an accent that is printed. -/
def accentedName : Program :=
  [.declaration .integer "número" (some (.integer 1)), .print (.identifier "número")]

theorem compileSource_accentedName :
    compileSource "inteiro número = 1! imprimir(número)!" "Main" =
        .ok (accentedName.toJava "Main").text ∧
      StayDistinct accentedName.declaredNames ∧ (accentedName.toJava "Main").Uses 1 "numero" ∧
      ∀ other, (accentedName.toJava "Main").Declares other "numero" ↔ other = 0 := by
  have split : tokenize "inteiro número = 1! imprimir(número)!" =
      .ok
        [.keyword (.declare .integer), .identifier "número", .operator .assign, .integer 1,
          .punctuation .terminator, .keyword .print, .punctuation .openParen, .identifier "número",
          .punctuation .closeParen, .punctuation .terminator] := by
    cbv
  have one := Derives.expression_of_atom (.integer 1)
  have name := Derives.expression_of_atom (.name "número")
  have derivation : DerivesProgram _ accentedName :=
    .cons (.initialised .integer "número" one) (.cons (.print name) .nil)
  have checked := checkSource_of_derives split derivation
    (accepted_of_toOption accentedName (by decide +kernel))
  have compiled := compileSource_eq_ok_iff.mpr
    ⟨accentedName, checked, (rfl : (accentedName.toJava "Main").text = _)⟩
  have spelled : javaName "número" = "numero" := by decide +kernel
  have distinct : StayDistinct accentedName.declaredNames := by decide +kernel
  obtain ⟨program, found, -, -, -, resolves⟩ := compileSource_resolves compiled
  obtain rfl : accentedName = program := Except.ok.inj (checked.symm.trans found)
  have used : (accentedName.toJava "Main").Uses 1 "numero" :=
    ⟨.println (.name (javaName "número")), rfl, List.mem_singleton.mpr spelled.symm⟩
  obtain ⟨_, earlier, -, -, isEarlier, -, declared_iff⟩ := resolves distinct 1 "numero" used
  obtain rfl := Nat.lt_one_iff.mp isEarlier
  exact ⟨compiled, distinct, used, declared_iff⟩

/-- Two variables whose names differ in an accent only. -/
def clashingNames : Program :=
  [.declaration .integer "a" (some (.integer 1)), .declaration .integer "á" (some (.integer 2))]

/-- Both variables of an accepted source text become the same local variable, declared twice. -/
theorem compileSource_clashingNames :
    compileSource "inteiro a = 1! inteiro á = 2!" "Main" =
        .ok (clashingNames.toJava "Main").text ∧
      checkSource "inteiro a = 1! inteiro á = 2!" = .ok clashingNames ∧
      (clashingNames.toJava "Main").body =
        [.declaration .integer "a" (some (.int 1)), .declaration .integer "a" (some (.int 2))] ∧
      ¬StayDistinct clashingNames.declaredNames ∧
      ¬(clashingNames.toJava "Main").declaredNames.Nodup := by
  have split : tokenize "inteiro a = 1! inteiro á = 2!" =
      .ok
        [.keyword (.declare .integer), .identifier "a", .operator .assign, .integer 1,
          .punctuation .terminator, .keyword (.declare .integer), .identifier "á", .operator .assign,
          .integer 2, .punctuation .terminator] := by
    cbv
  have one := Derives.expression_of_atom (.integer 1)
  have two := Derives.expression_of_atom (.integer 2)
  have derivation : DerivesProgram _ clashingNames :=
    .cons (.initialised .integer "a" one) (.cons (.initialised .integer "á" two) .nil)
  have checked := checkSource_of_derives split derivation
    (accepted_of_toOption clashingNames (by decide +kernel))
  refine ⟨compileSource_eq_ok_iff.mpr ⟨clashingNames, checked, rfl⟩, checked, ?_, ?_, ?_⟩
  all_goals decide +kernel

end Luso
