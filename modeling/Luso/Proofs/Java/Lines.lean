import Luso.Proofs.Java.Naming
import Luso.Proofs.Java.Numeral

/-!
# The lines of a generated program

In the class for an accepted source text, `main` has one line for each statement.  It is a statement of
Java unless the statement of the source text is nothing but a value.
-/

namespace Luso

/-! ## Statements as text -/

/-- Whether a statement evaluates an expression that is no assignment. -/
def Statement.isValue : Statement → Bool
  | .expression value => !value.isAssignment
  | _ => false

namespace Java

/-- The text, without the semicolon, of a statement that Java accepts: a declaration with or without a
first value, a call that prints, or an assignment.  The names are spelled with letters from A to Z and
digits; whether they are legal is a question of its own. -/
inductive IsStatementText : List Char → Prop where
  | declaration (type : DataType) {name : List Char} :
      (∀ character ∈ name, character.isAlphanum = true) →
      IsStatementText ((typeName type).toList ++ ' ' :: name)
  | initialised (type : DataType) {name : List Char} (initial : Expression) :
      (∀ character ∈ name, character.isAlphanum = true) →
      IsStatementText ((typeName type).toList ++ ' ' :: name ++ [' ', '=', ' '] ++ initial.write)
  | println (argument : Expression) :
      IsStatementText ("System.out.println(".toList ++ argument.write ++ [')'])
  | assignment {name : List Char} (value : Expression) :
      (∀ character ∈ name, character.isAlphanum = true) →
      IsStatementText (name ++ [' ', '=', ' '] ++ value.write)

/-- What stands in front of the body of `main`. -/
def opening (className : String) : List Char :=
  "public class ".toList ++ className.toList ++ " \x7b\n".toList ++
    "\tpublic static void main(String[] args) \x7b\n".toList

/-- A line of the body of `main`. -/
def line (content : List Char) : List Char :=
  ['\t', '\t'] ++ content ++ [';', '\n']

/-- What stands behind the body of `main`. -/
def closing : List Char :=
  "\t\x7d\n\x7d\n".toList

namespace Statement

theorem write_bare (type : DataType) (name : String) :
    (declaration type name none).write = (typeName type).toList ++ ' ' :: name.toList := rfl

theorem write_initialised (type : DataType) (name : String) (initial : Expression) :
    (declaration type name (some initial)).write =
      (typeName type).toList ++ ' ' :: name.toList ++ [' ', '=', ' '] ++ initial.write := rfl

theorem write_println (argument : Expression) :
    (println argument).write = "System.out.println(".toList ++ argument.write ++ [')'] := rfl

end Statement

theorem MainClass.write_eq (mainClass : MainClass) :
    mainClass.write =
      opening mainClass.name ++ (mainClass.body.map Statement.write).flatMap line ++ closing := by
  rw [List.flatMap_map]
  rfl

/-! ## Characters -/

/-- The character does not end the line, separate anything or open a group. -/
def IsInner (character : Char) : Prop :=
  character ≠ '\n' ∧ character ≠ ' ' ∧ character ≠ '('

instance (character : Char) : Decidable (IsInner character) :=
  inferInstanceAs (Decidable (_ ∧ _ ∧ _))

theorem isInner_of_isAlphanum {character : Char} (alphanum : character.isAlphanum = true) :
    IsInner character := by
  refine ⟨?_, ?_, ?_⟩
  all_goals
    rintro rfl
    cases alphanum

theorem isInner_of_isNumeral {character : Char} (numeral : IsNumeral character) :
    IsInner character := by
  rcases numeral with digit | rfl | rfl | rfl
  · refine isInner_of_isAlphanum ?_
    rw [Char.isAlphanum, digit, Bool.or_true]
  all_goals decide

theorem isInner_writeDouble (value : Binary64) :
    ∀ character ∈ writeDouble value, IsInner character :=
  forall_mem_writeDouble (fun _ => isInner_of_isNumeral) (by simp [IsInner])
    (by simp [IsInner]) value

/-- Every statement has a blank or a parenthesis in it. -/
theorem IsStatementText.exists_not_isInner {text : List Char} (statement : IsStatementText text) :
    ∃ character ∈ text, ¬IsInner character := by
  cases statement with
  | declaration | initialised | assignment => exact ⟨' ', by simp, by decide⟩
  | println => exact ⟨'(', by simp, by decide⟩

/-- No statement starts with a parenthesis. -/
theorem IsStatementText.head?_ne {text : List Char} (statement : IsStatementText text) :
    text.head? ≠ some '(' := by
  cases statement with
  | declaration type | initialised type => cases type <;> simp [typeName]
  | println => simp
  | @assignment name _ spelled =>
      cases name with
      | nil => simp
      | cons first tail =>
          have inner := isInner_of_isAlphanum (spelled first List.mem_cons_self)
          simpa using inner.2.2

end Java

/-! ## Expressions and statements on one line -/

theorem lineFeed_not_mem_of_isInner {text : List Char}
    (inner : ∀ character ∈ text, Java.IsInner character) : '\n' ∉ text :=
  fun member => (inner '\n' member).1 rfl

theorem isInner_javaName {name : String} (word : IsWord name.toList) :
    ∀ character ∈ (javaName name).toList, Java.IsInner character :=
  fun character member => Java.isInner_of_isAlphanum (isAlphanum_javaName word character member)

namespace Expression

theorem lineFeed_not_mem_write {expression : Expression}
    (words : ∀ name ∈ expression.names, IsWord name.toList) :
    '\n' ∉ expression.toJava.write := by
  induction expression with
  | integer value =>
      exact lineFeed_not_mem_of_isInner
        fun character member => Java.isInner_of_isNumeral (isNumeral_writeInt _ character member)
  | real value => exact lineFeed_not_mem_of_isInner (Java.isInner_writeDouble value)
  | identifier name =>
      exact lineFeed_not_mem_of_isInner (isInner_javaName (words name List.mem_cons_self))
  | binary operation left right leftInduction rightInduction =>
      have leftFree := leftInduction fun name member =>
        words name (List.mem_append_left _ member)
      have rightFree := rightInduction fun name member =>
        words name (List.mem_append_right _ member)
      have enclosedFree {text : List Char} (needed : Bool) (free : '\n' ∉ text) :
          '\n' ∉ Java.enclose needed text := by
        cases needed <;> simp [Java.enclose, free]
      have signFree : '\n' ≠ operation.symbol := by cases operation <;> decide
      simp [toJava, Java.Expression.write, enclosedFree, leftFree, rightFree, signFree]
  | assignment name value induction =>
      have nameFree := lineFeed_not_mem_of_isInner
        (isInner_javaName (words name List.mem_cons_self))
      have valueFree := induction fun other member => words other (List.mem_cons_of_mem _ member)
      simp [toJava, Java.Expression.write, nameFree, valueFree]

/-- An expression that is no assignment is not written like a statement. -/
theorem not_isStatementText_write {expression : Expression}
    (words : ∀ name ∈ expression.names, IsWord name.toList)
    (noAssignment : expression.isAssignment = false) :
    ¬Java.IsStatementText expression.toJava.write := by
  intro statement
  -- A number or a name has nothing in it that every statement has.
  obtain ⟨character, member, notInner⟩ := statement.exists_not_isInner
  cases expression with
  | integer value =>
      exact notInner (Java.isInner_of_isNumeral (isNumeral_writeInt _ character member))
  | real value => exact notInner (Java.isInner_writeDouble value character member)
  | identifier name =>
      exact notInner (isInner_javaName (words name List.mem_cons_self) character member)
  | binary => exact statement.head?_ne rfl
  | assignment => cases noAssignment

end Expression

namespace Statement

variable {statement : Statement} (words : ∀ name, statement.Mentions name → IsWord name.toList)

include words

theorem lineFeed_not_mem_write : '\n' ∉ statement.toJava.write := by
  cases statement with
  | declaration type name initial =>
      have nameFree := lineFeed_not_mem_of_isInner (isInner_javaName (words name (.inl rfl)))
      have typeFree : '\n' ∉ (Java.typeName type).toList := by cases type <;> decide
      have declarationFree :
          '\n' ∉ (Java.typeName type).toList ++ ' ' :: (javaName name).toList := by
        rw [List.mem_append, List.mem_cons, not_or, not_or]
        exact ⟨typeFree, by decide, nameFree⟩
      cases initial with
      | none =>
          rw [toJava, Option.map_none, Java.Statement.write_bare]
          exact declarationFree
      | some initial =>
          have valueFree := initial.lineFeed_not_mem_write fun other member =>
            words other (.inr member)
          rw [toJava, Option.map_some, Java.Statement.write_initialised, List.mem_append,
            List.mem_append, not_or, not_or]
          exact ⟨⟨declarationFree, by decide⟩, valueFree⟩
  | print argument =>
      have argumentFree := argument.lineFeed_not_mem_write fun name member =>
        words name (.inr member)
      rw [toJava, Java.Statement.write_println]
      simp [argumentFree]
  | expression value =>
      exact value.lineFeed_not_mem_write fun name member => words name (.inr member)

/-- A statement is written like one of Java exactly if it is not just a value. -/
theorem isStatementText_write_iff :
    Java.IsStatementText statement.toJava.write ↔ statement.isValue = false := by
  cases statement with
  | declaration type name initial =>
      have spelled := isAlphanum_javaName (words name (.inl rfl))
      refine ⟨fun _ => rfl, fun _ => ?_⟩
      cases initial with
      | none => exact .declaration type spelled
      | some initial => exact .initialised type initial.toJava spelled
  | print argument => exact ⟨fun _ => rfl, fun _ => .println argument.toJava⟩
  | expression value =>
      cases value with
      | assignment name value =>
          have spelled := isAlphanum_javaName (words name (.inr List.mem_cons_self))
          exact ⟨fun _ => rfl, fun _ => .assignment value.toJava spelled⟩
      | integer | real | identifier | binary =>
          have noStatement := Expression.not_isStatementText_write
            (fun name member => words name (.inr member)) rfl
          exact ⟨fun written => absurd written noStatement, fun isStatement => by cases isStatement⟩

end Statement

/-! ## Accepted programs -/

/-- The class for a source text has one line in the body of `main` for each statement, and the line is
a declaration, a call that prints or an assignment exactly if the statement is not just a value. -/
theorem compileSource_writes_lines {source className text : String}
    (compiled : compileSource source className = .ok text) :
    ∃ program contents, checkSource source = .ok program ∧
      text.toList = Java.opening className ++ contents.flatMap Java.line ++ Java.closing ∧
      List.Forall₂
        (fun statement content =>
          '\n' ∉ content ∧ (Java.IsStatementText content ↔ statement.isValue = false))
        program contents := by
  obtain ⟨program, checked, rfl⟩ := compileSource_eq_ok_iff.mp compiled
  have words {statement : Statement} (member : statement ∈ program) (name : String)
      (mentions : statement.Mentions name) : IsWord name.toList :=
    (isWord_of_parse (checkSource_eq_ok_iff.mp checked).1 member mentions).1
  refine ⟨program, (program.map Statement.toJava).map Java.Statement.write, checked, ?_, ?_⟩
  · rw [Java.MainClass.text, String.toList_ofList, Java.MainClass.write_eq]
    rfl
  · rw [List.map_map, List.forall₂_map_right_iff, List.forall₂_same]
    intro statement member
    exact ⟨Statement.lineFeed_not_mem_write (words member),
      Statement.isStatementText_write_iff (words member)⟩

/-- A declaration and an assignment. -/
def lateValue : Program :=
  [.declaration .integer "a" none, .expression (.assignment "a" (.integer 2))]

theorem compileSource_lateValue :
    compileSource "inteiro a! a = 2!" "Main" =
        .ok (lateValue.toJava "Main").text ∧
      ∃ first second,
        (lateValue.toJava "Main").write =
          Java.opening "Main" ++ [first, second].flatMap Java.line ++ Java.closing ∧
        Java.IsStatementText first ∧ Java.IsStatementText second := by
  have split : tokenize "inteiro a! a = 2!" =
      .ok
        [.keyword (.declare .integer), .identifier "a", .punctuation .terminator, .identifier "a",
          .operator .assign, .integer 2, .punctuation .terminator] := by
    cbv
  have two := Derives.expression_of_atom (.integer 2)
  have assigned := Derives.assignment (.targetName "a") two
  have derivation : DerivesProgram _ lateValue :=
    .cons (.bare .integer "a") (.cons (.expression assigned) .nil)
  have checked := checkSource_of_derives split derivation
    (accepted_of_toOption lateValue (by decide +kernel))
  have compiled := compileSource_eq_ok_iff.mpr
    ⟨lateValue, checked, (rfl : (lateValue.toJava "Main").text = _)⟩
  obtain ⟨program, contents, found, text_eq, shapes⟩ := compileSource_writes_lines compiled
  obtain rfl : lateValue = program := Except.ok.inj (checked.symm.trans found)
  rcases shapes with _ | ⟨⟨-, first_iff⟩, _ | ⟨⟨-, second_iff⟩, ⟨⟩⟩⟩
  rw [Java.MainClass.text, String.toList_ofList] at text_eq
  exact ⟨compiled, _, _, text_eq, first_iff.mpr rfl, second_iff.mpr rfl⟩

/-- A literal, a name and a sum that nothing is done with. -/
def unusedValues : Program :=
  [.declaration .integer "a" (some (.integer 1)), .expression (.integer 2),
    .expression (.identifier "a"), .expression (.binary .add (.identifier "a") (.integer 3))]

/-- Accepted values that nothing is done with make lines that are no statements of Java. -/
theorem compileSource_unusedValues :
    compileSource "inteiro a = 1! 2! a! a + 3!" "Main" =
        .ok (unusedValues.toJava "Main").text ∧
      (unusedValues.toJava "Main").body.map Java.Statement.text =
        ["int a = 1", "2", "a", "(a + 3)"] ∧
      ¬Java.IsStatementText "2".toList ∧ ¬Java.IsStatementText "a".toList ∧
      ¬Java.IsStatementText "(a + 3)".toList := by
  have split : tokenize "inteiro a = 1! 2! a! a + 3!" =
      .ok
        [.keyword (.declare .integer), .identifier "a", .operator .assign, .integer 1,
          .punctuation .terminator, .integer 2, .punctuation .terminator, .identifier "a",
          .punctuation .terminator, .identifier "a", .operator (.arithmetic .add), .integer 3,
          .punctuation .terminator] := by
    cbv
  have literal (value : Int32) := Derives.expression_of_atom (.integer value)
  have name := Derives.expression_of_atom (.name "a")
  have sum := Derives.binary_of_atoms .add (.name "a") (.integer 3)
  have derivation : DerivesProgram _ unusedValues :=
    .cons (.initialised .integer "a" (literal 1))
      (.cons (.expression (literal 2)) (.cons (.expression name) (.cons (.expression sum) .nil)))
  have checked := checkSource_of_derives split derivation
    (accepted_of_toOption unusedValues (by decide +kernel))
  have noStatement {character : Char} (inner : Java.IsInner character) :
      ¬Java.IsStatementText [character] := by
    intro statement
    obtain ⟨found, member, notInner⟩ := statement.exists_not_isInner
    obtain rfl := List.mem_singleton.mp member
    exact notInner inner
  refine ⟨compileSource_eq_ok_iff.mpr ⟨unusedValues, checked, rfl⟩, ?_, noStatement (by decide),
    noStatement (by decide), fun statement => statement.head?_ne rfl⟩
  decide +kernel

end Luso
