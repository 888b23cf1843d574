import Luso.Proofs.Java.Lines
import Luso.Proofs.Java.Words

/-!
# The Java text tells the program

If all names are ASCII, then nothing of a program is lost in its Java text.  A literal or a name ends
where its word ends; what stands behind the word tells whether it is a value, the target of an
assignment or the type in a declaration, and what stands first tells whether an operation begins.
-/

namespace Luso

/-! ## Expressions -/

namespace Expression

/-- The names in an expression are plain, and its numbers are those of literals. -/
def IsPlain : Expression → Prop
  | .integer value => 0 ≤ value.toInt
  | .real value => value.IsLiteral
  | .identifier name => IsPlainName name
  | .binary _ left right => left.IsPlain ∧ right.IsPlain
  | .assignment name value => IsPlainName name ∧ value.IsPlain

/-- An expression is a literal or a name. -/
def IsAtom : Expression → Prop
  | .integer _ | .real _ | .identifier _ => True
  | .binary _ _ _ | .assignment _ _ => False

variable {expression other : Expression} {name : String} {rest rest' behind behind' : List Char}

theorem isSolid_write (atom : expression.IsAtom) (plain : expression.IsPlain) :
    Java.IsSolid expression.toJava.write ∧ expression.toJava.write ≠ [] := by
  cases expression with
  | integer value =>
      refine ⟨fun character member => ?_, Java.writeInt_ne_nil _⟩
      exact Java.isSolid_of_isNumeral (isNumeral_writeInt _ character member)
  | real value =>
      obtain ⟨character, member, -⟩ := Java.exists_not_isDigit_writeDouble plain
      exact ⟨Java.isSolid_writeDouble value, List.ne_nil_of_mem member⟩
  | identifier name =>
      have plain : IsPlainName name := plain
      rw [toJava, Java.Expression.write, plain.javaName_eq]
      exact ⟨Java.isSolid_name plain, plain.ne_nil⟩
  | binary | assignment => cases atom

/-- Literals and names are written differently. -/
theorem eq_of_write_eq_of_isAtom (atom : expression.IsAtom) (atom' : other.IsAtom)
    (plain : expression.IsPlain) (plain' : other.IsPlain)
    (same : expression.toJava.write = other.toJava.write) : expression = other := by
  cases expression with
  | integer value =>
      cases other with
      | integer value' =>
          have values := congrArg readInt same
          rw [toJava, toJava, Java.Expression.write, Java.Expression.write, readInt_writeInt,
            readInt_writeInt] at values
          rw [Int32.toInt.inj values]
      | real => exact absurd same (Java.writeInt_ne_writeDouble plain plain')
      | identifier name =>
          rw [toJava, toJava, Java.Expression.write, Java.Expression.write,
            IsPlainName.javaName_eq plain'] at same
          exact absurd same (Java.writeInt_ne_name plain plain')
      | binary | assignment => cases atom'
  | real number =>
      cases other with
      | integer => exact absurd same.symm (Java.writeInt_ne_writeDouble plain' plain)
      | real number' => rw [Java.writeDouble_inj plain plain' same]
      | identifier name =>
          rw [toJava, toJava, Java.Expression.write, Java.Expression.write,
            IsPlainName.javaName_eq plain'] at same
          exact absurd same (Java.writeDouble_ne_name plain plain')
      | binary | assignment => cases atom'
  | identifier name =>
      rw [toJava, Java.Expression.write, IsPlainName.javaName_eq plain] at same
      cases other with
      | integer => exact absurd same.symm (Java.writeInt_ne_name plain' plain)
      | real => exact absurd same.symm (Java.writeDouble_ne_name plain' plain)
      | identifier name' =>
          rw [toJava, Java.Expression.write, IsPlainName.javaName_eq plain'] at same
          rw [String.toList_inj.mp same]
      | binary | assignment => cases atom'
  | binary | assignment => cases atom

/-! ### What stands behind -/

/-- The text of an operand. -/
def writeOperand (expression : Expression) : List Char :=
  Java.enclose expression.isAssignment expression.toJava.write

theorem write_binary (operation : Arithmetic) (left right : Expression) :
    (binary operation left right).toJava.write ++ rest =
      '(' :: (left.writeOperand ++ ' ' :: operation.symbol :: ' ' ::
        (right.writeOperand ++ ')' :: rest)) := by
  simp [toJava, Java.Expression.write, writeOperand]

theorem write_assignment (plain : IsPlainName name) (value : Expression) :
    (assignment name value).toJava.write ++ rest =
      name.toList ++ ' ' :: '=' :: ' ' :: (value.toJava.write ++ rest) := by
  simp [toJava, Java.Expression.write, plain.javaName_eq]

theorem writeOperand_assignment (name : String) (value : Expression) :
    (assignment name value).writeOperand ++ rest =
      '(' :: ((assignment name value).toJava.write ++ ')' :: rest) := by
  simp [writeOperand, isAssignment, Java.enclose]

theorem ends_assign (behind : List Char) : Java.Ends (' ' :: behind) := by
  rintro next ⟨⟩
  rfl

/-- A literal or a name is not the target of an assignment. -/
theorem write_append_ne_target (atom : expression.IsAtom) (plain : expression.IsPlain)
    (follows : Java.Follows rest) (target : IsPlainName name) :
    expression.toJava.write ++ rest ≠ name.toList ++ ' ' :: '=' :: behind := by
  intro same
  obtain ⟨-, rest_eq⟩ := (isSolid_write atom plain).1.append_inj (Java.isSolid_name target)
    follows.ends (ends_assign _) same
  exact Java.not_follows_assign _ (rest_eq ▸ follows)

/-- The first operand of an operation does not look like the target of an assignment. -/
theorem writeOperand_append_ne_target (plain : expression.IsPlain) (operation : Arithmetic)
    (target : IsPlainName name) :
    expression.writeOperand ++ ' ' :: operation.symbol :: rest ≠
      name.toList ++ ' ' :: '=' :: behind := by
  have noParen := (Java.isSolid_name target).append_ne_openParen target.ne_nil
  cases expression with
  | integer | real | identifier =>
      exact write_append_ne_target trivial plain (.sign operation rest) target
  | binary sign left right =>
      intro same
      have same : (binary sign left right).toJava.write ++ _ = _ := same
      rw [write_binary] at same
      exact noParen _ _ same.symm
  | assignment name value =>
      rw [writeOperand_assignment]
      exact fun same => (noParen _ _ same.symm).elim

/-! ### Unique readability -/

theorem exists_eq_assignment (isAssignment : expression.isAssignment = true) :
    ∃ name value, expression = assignment name value := by
  cases expression with
  | assignment name value => exact ⟨name, value, rfl⟩
  | integer | real | identifier | binary => cases isAssignment

/-- An assignment in parentheses is no other operand. -/
theorem enclosed_ne_writeOperand (target : IsPlainName name) (plain : expression.IsPlain)
    (noAssignment : expression.isAssignment = false) :
    '(' :: (name.toList ++ ' ' :: '=' :: behind) ≠ expression.writeOperand ++ rest := by
  intro same
  rw [writeOperand, noAssignment] at same
  cases expression with
  | integer | real | identifier =>
      obtain ⟨solid, nonempty⟩ := isSolid_write (by trivial) plain
      exact solid.append_ne_openParen nonempty _ _ same.symm
  | binary sign left right =>
      have inside := (List.cons.inj (same.trans (write_binary sign left right))).2
      exact writeOperand_append_ne_target plain.1 sign target inside.symm
  | assignment => cases noAssignment

/-- An expression can be told from everything else that is written in front of something that may
follow it. -/
def Determined (expression : Expression) : Prop :=
  ∀ {other : Expression} {rest rest' : List Char}, other.IsPlain →
    Java.Follows rest → Java.Follows rest' →
    expression.toJava.write ++ rest = other.toJava.write ++ rest' →
    expression = other ∧ rest = rest'

theorem determined_of_isAtom (atom : expression.IsAtom) (plain : expression.IsPlain) :
    expression.Determined := by
  intro other rest rest' plain' follows follows' same
  obtain ⟨solid, nonempty⟩ := isSolid_write atom plain
  have ofAtom (atom' : other.IsAtom) : expression = other ∧ rest = rest' := by
    obtain ⟨write_eq, rest_eq⟩ :=
      solid.append_inj (isSolid_write atom' plain').1 follows.ends follows'.ends same
    exact ⟨eq_of_write_eq_of_isAtom atom atom' plain plain' write_eq, rest_eq⟩
  cases other with
  | integer | real | identifier => exact ofAtom trivial
  | binary =>
      rw [write_binary] at same
      exact absurd same (solid.append_ne_openParen nonempty _ _)
  | assignment =>
      rw [write_assignment plain'.1] at same
      exact absurd same (write_append_ne_target atom plain follows plain'.1)

/-- An operand is determined if the expression is. -/
theorem Determined.operand (determined : expression.Determined) (plain : expression.IsPlain)
    (plain' : other.IsPlain) (follows : Java.Follows rest) (follows' : Java.Follows rest')
    (same : expression.writeOperand ++ rest = other.writeOperand ++ rest') :
    expression = other ∧ rest = rest' := by
  cases enclosed : expression.isAssignment with
  | false =>
      cases enclosed' : other.isAssignment with
      | false =>
          rw [writeOperand, writeOperand, enclosed, enclosed'] at same
          exact determined plain' follows follows' same
      | true =>
          obtain ⟨name, value, rfl⟩ := exists_eq_assignment enclosed'
          rw [writeOperand_assignment, write_assignment plain'.1] at same
          exact absurd same.symm (enclosed_ne_writeOperand plain'.1 plain enclosed)
  | true =>
      obtain ⟨name, value, rfl⟩ := exists_eq_assignment enclosed
      rw [writeOperand_assignment] at same
      cases enclosed' : other.isAssignment with
      | false =>
          rw [write_assignment plain.1] at same
          exact absurd same (enclosed_ne_writeOperand plain.1 plain' enclosed')
      | true =>
          obtain ⟨name', value', rfl⟩ := exists_eq_assignment enclosed'
          rw [writeOperand_assignment] at same
          obtain ⟨whole_eq, behind_eq⟩ :=
            determined plain' (.closeParen _) (.closeParen _) (List.cons.inj same).2
          exact ⟨whole_eq, (List.cons.inj behind_eq).2⟩

theorem determined_binary (operation : Arithmetic) {left right : Expression}
    (leftDetermined : left.Determined) (rightDetermined : right.Determined)
    (leftPlain : left.IsPlain) (rightPlain : right.IsPlain) :
    (binary operation left right).Determined := by
  intro other rest rest' plain' follows follows' same
  rw [write_binary] at same
  cases other with
  | integer | real | identifier =>
      obtain ⟨solid, nonempty⟩ := isSolid_write (by trivial) plain'
      exact absurd same.symm (solid.append_ne_openParen nonempty _ _)
  | binary operation' left' right' =>
      rw [write_binary] at same
      have inside := (List.cons.inj same).2
      obtain ⟨rfl, behindLeft⟩ := leftDetermined.operand leftPlain plain'.1
        (.sign _ _) (.sign _ _) inside
      simp only [List.cons.injEq, true_and] at behindLeft
      obtain ⟨signs, behindSigns⟩ := behindLeft
      obtain rfl := Arithmetic.symbol_inj signs
      obtain ⟨rfl, behindRight⟩ := rightDetermined.operand rightPlain plain'.2
        (.closeParen _) (.closeParen _) behindSigns
      exact ⟨rfl, (List.cons.inj behindRight).2⟩
  | assignment name value =>
      have solid := Java.isSolid_name plain'.1
      rw [write_assignment plain'.1] at same
      exact absurd same.symm (solid.append_ne_openParen plain'.1.ne_nil _ _)

theorem determined_assignment {value : Expression} (valueDetermined : value.Determined)
    (target : IsPlainName name) : (assignment name value).Determined := by
  intro other rest rest' plain' follows follows' same
  have solid := Java.isSolid_name target
  rw [write_assignment target] at same
  cases other with
  | integer | real | identifier =>
      exact absurd same.symm (write_append_ne_target trivial plain' follows' target)
  | binary =>
      rw [write_binary] at same
      exact absurd same (solid.append_ne_openParen target.ne_nil _ _)
  | assignment name' value' =>
      rw [write_assignment plain'.1] at same
      obtain ⟨names, behindNames⟩ := solid.append_inj (Java.isSolid_name plain'.1)
        (ends_assign _) (ends_assign _) same
      obtain rfl := String.toList_inj.mp names
      simp only [List.cons.injEq, true_and] at behindNames
      obtain ⟨rfl, rest_eq⟩ := valueDetermined plain'.2 follows follows' behindNames
      exact ⟨rfl, rest_eq⟩

theorem determined (plain : expression.IsPlain) : expression.Determined := by
  induction expression with
  | integer | real | identifier => exact determined_of_isAtom (by trivial) plain
  | binary operation left right leftInduction rightInduction =>
      obtain ⟨leftPlain, rightPlain⟩ := plain
      exact determined_binary operation (leftInduction leftPlain) (rightInduction rightPlain)
        leftPlain rightPlain
  | assignment name value induction =>
      obtain ⟨target, valuePlain⟩ := plain
      exact determined_assignment (induction valuePlain) target

theorem eq_of_write_eq (plain : expression.IsPlain) (plain' : other.IsPlain)
    (same : expression.toJava.write = other.toJava.write) : expression = other :=
  (determined plain plain' .nil .nil (congrArg (· ++ []) same)).1

/-- A word is the beginning of an expression only if nothing or the sign of an assignment follows it. -/
theorem write_ne_append (plain : expression.IsPlain) {word : List Char} (solid : Java.IsSolid word)
    (nonempty : word ≠ []) (ends : Java.Ends behind) (notAlone : behind ≠ [])
    (notTarget : ∀ value, behind ≠ ' ' :: '=' :: value) :
    expression.toJava.write ≠ word ++ behind := by
  intro same
  rw [← List.append_nil expression.toJava.write] at same
  cases expression with
  | integer | real | identifier =>
      have valueSolid := (isSolid_write (by trivial) plain).1
      exact notAlone (valueSolid.append_inj solid Java.Follows.nil.ends ends same).2.symm
  | binary =>
      rw [write_binary] at same
      exact solid.append_ne_openParen nonempty _ _ same.symm
  | assignment =>
      rw [write_assignment plain.1] at same
      have behind_eq := ((Java.isSolid_name plain.1).append_inj solid (ends_assign _) ends same).2
      exact notTarget _ behind_eq.symm

end Expression

/-! ## Statements -/

namespace Statement

/-- The names in a statement are plain, and its numbers are those of literals. -/
def IsPlain : Statement → Prop
  | .declaration _ name initial => IsPlainName name ∧ ∀ value ∈ initial, value.IsPlain
  | .print argument => argument.IsPlain
  | .expression value => value.IsPlain

variable {type : DataType} {name : String} {initial initial' : Option Expression}
  {argument value : Expression}

/-- What stands behind the name in a declaration. -/
def writeInitial (initial : Option Expression) : List Char :=
  match initial with
  | none => []
  | some value => ' ' :: '=' :: ' ' :: value.toJava.write

theorem write_declaration (plain : IsPlainName name) :
    (declaration type name initial).toJava.write =
      (Java.typeName type).toList ++ ' ' :: (name.toList ++ writeInitial initial) := by
  rw [toJava, plain.javaName_eq]
  cases initial with
  | none =>
      rw [Option.map_none, Java.Statement.write_bare, writeInitial, List.append_nil]
  | some value =>
      rw [Option.map_some, Java.Statement.write_initialised, writeInitial]
      simp only [List.append_assoc, List.cons_append, List.nil_append]

theorem write_print : (print argument).toJava.write =
    "System.out.println".toList ++ '(' :: (argument.toJava.write ++ [')']) := by
  have word : "System.out.println(".toList = "System.out.println".toList ++ ['('] := by decide
  rw [toJava, Java.Statement.write_println, word]
  simp only [List.append_assoc, List.cons_append, List.nil_append]

theorem write_expression : (expression value).toJava.write = value.toJava.write := rfl

theorem ends_writeInitial : Java.Ends (writeInitial initial) := by
  cases initial <;> rintro next ⟨⟩
  rfl

theorem eq_of_writeInitial_eq (plain : ∀ value ∈ initial, value.IsPlain)
    (plain' : ∀ value ∈ initial', value.IsPlain)
    (same : writeInitial initial = writeInitial initial') : initial = initial' := by
  cases initial with
  | none =>
      cases initial' with
      | none => rfl
      | some value' => cases same
  | some value =>
      cases initial' with
      | none => cases same
      | some value' =>
          simp only [writeInitial, List.cons.injEq, true_and] at same
          rw [value.eq_of_write_eq (plain value rfl) (plain' value' rfl) same]

theorem isSolid_typeName : Java.IsSolid (Java.typeName type).toList := by
  cases type <;> simp [Java.IsSolid, Java.isSolid, Java.typeName]

theorem isSolid_println : Java.IsSolid "System.out.println".toList := by
  simp [Java.IsSolid, Java.isSolid]

theorem declaration_ne_print (plain : IsPlainName name) :
    (declaration type name initial).toJava.write ≠ (print argument).toJava.write := by
  rw [write_declaration plain, write_print]
  intro same
  have word_eq := (isSolid_typeName.append_inj isSolid_println (Expression.ends_assign _)
    (by rintro next ⟨⟩; rfl) same).1
  cases type <;> simp [Java.typeName] at word_eq

theorem declaration_ne_expression (plain : IsPlainName name) (valuePlain : value.IsPlain) :
    (declaration type name initial).toJava.write ≠ (expression value).toJava.write := by
  rw [write_declaration plain, write_expression]
  apply Ne.symm
  refine value.write_ne_append valuePlain isSolid_typeName ?_ (Expression.ends_assign _)
    (List.cons_ne_nil _ _) fun rest target => ?_
  · cases type <;> simp [Java.typeName]
  · -- No name starts with the sign of an assignment.
    obtain ⟨first, tail, name_eq, -⟩ := plain.spelling
    rw [name_eq] at target
    have sign : '=' ∈ name.toList := by
      simp_all
    cases plain.isAlphanum '=' sign

theorem print_ne_expression (valuePlain : value.IsPlain) :
    (print argument).toJava.write ≠ (expression value).toJava.write := by
  rw [write_print, write_expression]
  apply Ne.symm
  refine value.write_ne_append valuePlain isSolid_println (by simp) (by rintro next ⟨⟩; rfl)
    (List.cons_ne_nil _ _) fun rest target => ?_
  cases target

/-- The text of a statement determines it. -/
theorem eq_of_write_eq {first second : Statement} (plain : first.IsPlain) (plain' : second.IsPlain)
    (same : first.toJava.write = second.toJava.write) : first = second := by
  cases first with
  | declaration type name initial =>
      cases second with
      | declaration type' name' initial' =>
          rw [write_declaration plain.1, write_declaration plain'.1] at same
          obtain ⟨types, behindTypes⟩ := isSolid_typeName.append_inj isSolid_typeName
            (Expression.ends_assign _) (Expression.ends_assign _) same
          obtain ⟨names, initials⟩ := (Java.isSolid_name plain.1).append_inj
            (Java.isSolid_name plain'.1) ends_writeInitial ends_writeInitial
            (List.cons.inj behindTypes).2
          obtain rfl : type = type' := by
            cases type <;> cases type' <;> simp [Java.typeName] at types ⊢
          obtain rfl := String.toList_inj.mp names
          rw [eq_of_writeInitial_eq plain.2 plain'.2 initials]
      | print => exact absurd same (declaration_ne_print plain.1)
      | expression => exact absurd same (declaration_ne_expression plain.1 plain')
  | print argument =>
      cases second with
      | declaration => exact absurd same.symm (declaration_ne_print plain'.1)
      | print argument' =>
          rw [write_print, write_print] at same
          have arguments := (List.cons.inj (List.append_cancel_left same)).2
          rw [(argument.determined plain plain' (.closeParen _) (.closeParen _) arguments).1]
      | expression => exact absurd same (print_ne_expression plain')
  | expression value =>
      cases second with
      | declaration => exact absurd same.symm (declaration_ne_expression plain'.1 plain)
      | print => exact absurd same.symm (print_ne_expression plain)
      | expression value' => rw [value.eq_of_write_eq plain plain' same]

end Statement

/-! ## Programs -/

namespace Java

/-- The lines in the body of `main` can be told from each other and from what closes it. -/
theorem eq_of_flatMap_line_eq {contents contents' : List (List Char)}
    (free : ∀ content ∈ contents, '\n' ∉ content) (free' : ∀ content ∈ contents', '\n' ∉ content)
    (same : contents.flatMap line ++ closing = contents'.flatMap line ++ closing) :
    contents = contents' := by
  have closing_ne (content rest : List Char) : closing ≠ line content ++ rest := by
    intro same
    have second := congrArg (·[1]?) same
    simp [closing, line] at second
  have line_append (content rest : List Char) :
      line content ++ rest = '\t' :: '\t' :: (content ++ [';'] ++ '\n' :: rest) := by
    simp [line]
  have ended {content : List Char} (free : '\n' ∉ content) : '\n' ∉ content ++ [';'] := by
    simp [free]
  induction contents generalizing contents' with
  | nil =>
      cases contents' with
      | nil => rfl
      | cons content' rest' =>
          rw [List.flatMap_cons, List.append_assoc] at same
          exact absurd same (closing_ne _ _)
  | cons content rest induction =>
      cases contents' with
      | nil =>
          rw [List.flatMap_cons, List.append_assoc] at same
          exact absurd same.symm (closing_ne _ _)
      | cons content' rest' =>
          rw [List.forall_mem_cons] at free free'
          rw [List.flatMap_cons, List.flatMap_cons, List.append_assoc, List.append_assoc,
            line_append, line_append] at same
          have parts := congrArg (cut '\n') (List.cons.inj (List.cons.inj same).2).2
          rw [cut_append_cons (ended free.1), cut_append_cons (ended free'.1)] at parts
          obtain ⟨content_eq, rest_eq⟩ := Prod.mk.inj parts
          rw [List.append_cancel_right content_eq, induction free.2 free'.2 rest_eq]

end Java

/-- In a program that is read, an ASCII name is plain. -/
theorem isPlainName_of_isWord {name : String} (word : IsWord name.toList)
    (notReserved : ∀ word : Keyword, word.spelling ≠ name)
    (ascii : ∀ character ∈ name.toList, Text.isAscii character = true) : IsPlainName name := by
  obtain ⟨first, tail, name_eq, letter, tailAll⟩ := word
  refine ⟨⟨first, tail, name_eq, ?_, fun character member => ?_⟩, notReserved⟩
  · exact Text.isAlpha_of_isLetter letter (ascii first (by simp [name_eq]))
  · have inName : character ∈ name.toList := name_eq ▸ List.mem_cons_of_mem first member
    apply Text.isAlphanum_of_mem_residue (tailAll character member)
    rw [Text.residue_of_isAscii (ascii character inName)]
    exact List.mem_cons_self

theorem Expression.isPlain {expression : Expression}
    (names : ∀ name ∈ expression.names, IsPlainName name)
    (lexemes : ∀ token ∈ expression.flatten, ∃ text, Classifies text token) :
    expression.IsPlain := by
  induction expression with
  | integer value =>
      obtain ⟨digits, classified⟩ := lexemes _ List.mem_cons_self
      cases classified with
      | integer _ value_eq =>
          rw [IsPlain, value_eq]
          exact Int.natCast_nonneg _
  | real value =>
      obtain ⟨digits, classified⟩ := lexemes _ List.mem_cons_self
      cases classified with
      | decimal => exact Binary64.isLiteral_ofDecimal _ _
  | identifier name => exact names name List.mem_cons_self
  | binary operation left right leftInduction rightInduction =>
      rw [Expression.names, List.forall_mem_append] at names
      rw [flatten, List.forall_mem_append, List.forall_mem_cons] at lexemes
      exact ⟨leftInduction names.1 lexemes.1, rightInduction names.2 lexemes.2.2⟩
  | assignment name value induction =>
      rw [Expression.names, List.forall_mem_cons] at names
      rw [flatten, List.forall_mem_cons, List.forall_mem_cons] at lexemes
      exact ⟨names.1, induction names.2 lexemes.2.2⟩

theorem Statement.isPlain {statement : Statement}
    (names : ∀ name, statement.Mentions name → IsPlainName name)
    (lexemes : ∀ token ∈ statement.flatten, ∃ text, Classifies text token) :
    statement.IsPlain := by
  cases statement with
  | declaration type name initial =>
      refine ⟨names name (.inl rfl), ?_⟩
      rintro value ⟨⟩
      rw [flatten, List.forall_mem_cons, List.forall_mem_cons, List.forall_mem_cons] at lexemes
      exact value.isPlain (fun name used => names name (.inr used)) lexemes.2.2.2
  | print argument =>
      rw [flatten, List.forall_mem_cons] at lexemes
      exact argument.isPlain (fun name used => names name (.inr used)) lexemes.2
  | expression value => exact value.isPlain (fun name used => names name (.inr used)) lexemes

/-- All names in a program are ASCII. -/
def Program.HasAsciiNames (program : Program) : Prop :=
  ∀ statement ∈ program, ∀ name, statement.Mentions name →
    ∀ character ∈ name.toList, Text.isAscii character = true

theorem isPlain_of_parse {source : String} {program : Program} (parsed : parse source = .ok program)
    (ascii : program.HasAsciiNames) : ∀ statement ∈ program, statement.IsPlain := by
  intro statement member
  obtain ⟨tokens, split, derivation⟩ := derives_of_parse parsed
  refine statement.isPlain (fun name mentions => ?_) fun token kept => ?_
  · obtain ⟨word, notReserved⟩ := isWord_of_parse parsed member mentions
    exact isPlainName_of_isWord word notReserved (ascii statement member name mentions)
  · have inProgram : token ∈ program.flatten := List.mem_flatMap.mpr ⟨statement, member, kept⟩
    rw [derivation.flatten_eq] at inProgram
    exact exists_classifies_of_tokenize split (List.mem_filter.mp inProgram).1

/-- The texts of its statements determine a program. -/
theorem Program.eq_of_map_write_eq {program program' : Program}
    (plain : ∀ statement ∈ program, statement.IsPlain)
    (plain' : ∀ statement ∈ program', statement.IsPlain)
    (same : (program.map Statement.toJava).map Java.Statement.write =
      (program'.map Statement.toJava).map Java.Statement.write) : program = program' := by
  induction program generalizing program' with
  | nil =>
      cases program' with
      | nil => rfl
      | cons => cases same
  | cons statement rest induction =>
      cases program' with
      | nil => cases same
      | cons statement' rest' =>
          rw [List.forall_mem_cons] at plain plain'
          obtain ⟨first_eq, rest_eq⟩ := List.cons.inj same
          rw [Statement.eq_of_write_eq plain.1 plain'.1 first_eq,
            induction plain.2 plain'.2 rest_eq]

/-- The Java text of a program that is read determines the program, if all names are ASCII: whatever
the sources are, programs with the same text in a class of the same name are the same. -/
theorem eq_of_toJava_text_eq {source source' className : String} {program program' : Program}
    (parsed : parse source = .ok program) (parsed' : parse source' = .ok program')
    (ascii : program.HasAsciiNames) (ascii' : program'.HasAsciiNames)
    (same : (program.toJava className).text = (program'.toJava className).text) :
    program = program' := by
  have free {source : String} {program : Program} (parsed : parse source = .ok program) :
      ∀ content ∈ (program.map Statement.toJava).map Java.Statement.write, '\n' ∉ content := by
    rw [List.map_map, List.forall_mem_map]
    exact fun statement member => Statement.lineFeed_not_mem_write fun name mentions =>
      (isWord_of_parse parsed member mentions).1
  have texts := String.ofList_injective same
  rw [Java.MainClass.write_eq, Java.MainClass.write_eq, List.append_assoc, List.append_assoc]
    at texts
  have contents := Java.eq_of_flatMap_line_eq (free parsed) (free parsed')
    (List.append_cancel_left texts)
  exact Program.eq_of_map_write_eq (isPlain_of_parse parsed ascii)
    (isPlain_of_parse parsed' ascii') contents

/-- An assignment. -/
def assignedTwo : Program :=
  [.expression (.assignment "a" (.integer 2))]

/-- Parentheses, blanks and a comment leave no trace in the Java text, and the program is the same
without them. -/
theorem eq_of_toJava_text_eq_assignedTwo :
    ∃ program program', parse "(a) = (2)" = .ok program ∧ parse "a=2! # dois" = .ok program' ∧
      (program.toJava "Main").text = (program'.toJava "Main").text ∧ program = program' := by
  obtain ⟨split, split'⟩ :
      tokenize "(a) = (2)" =
        .ok [.punctuation .openParen, .identifier "a", .punctuation .closeParen, .operator .assign,
          .punctuation .openParen, .integer 2, .punctuation .closeParen] ∧
      tokenize "a=2! # dois" =
        .ok [.identifier "a", .operator .assign, .integer 2, .punctuation .terminator] := by
    constructor <;> cbv
  have two := Derives.expression_of_atom (.integer 2)
  have enclosedTwo := Derives.expression_of_atom (.group two)
  have enclosed := Derives.assignment (.targetGroup (.targetName "a")) enclosedTwo
  have bare := Derives.assignment (.targetName "a") two
  have parsed : parse "(a) = (2)" = .ok assignedTwo :=
    parse_of_derives split (.last (.expression enclosed) rfl)
  have parsed' : parse "a=2! # dois" = .ok assignedTwo :=
    parse_of_derives split' (.cons (.expression bare) .nil)
  have ascii : assignedTwo.HasAsciiNames := by
    intro statement member name mentions
    obtain rfl := List.mem_singleton.mp member
    rcases mentions with ⟨⟨⟩⟩ | used
    obtain rfl := List.mem_singleton.mp used
    simp [Text.isAscii]
  have same : (assignedTwo.toJava "Main").text = (assignedTwo.toJava "Main").text := rfl
  exact ⟨_, _, parsed, parsed', same, eq_of_toJava_text_eq parsed parsed' ascii ascii same⟩

end Luso
