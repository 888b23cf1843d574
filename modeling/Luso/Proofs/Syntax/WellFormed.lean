import Luso.Proofs.Java.Words
import Luso.Proofs.Syntax.Flattening

/-!
# What stands in a program that is read

Every literal and every name in a program that is read is a token of the source text, and a lexeme can
stand only for some of them: for no negative integer, for no negative `double` and for none that is no
number, and for no name that is a reserved word.  So the Java text of every `double` in it is right,
though infinity is written without regard to its sign.
-/

namespace Luso

/-! ## Well-formed trees -/

/-- An integer that a literal can stand for. -/
def IsIntegerLiteral (value : Int32) : Prop :=
  0 ≤ value.toInt ∧ value.toInt ≤ Lexeme.greatestInteger

/-- A name that a variable can have: a letter with letters and digits behind it, but no reserved
word. -/
def IsVariableName (name : String) : Prop :=
  IsWord name.toList ∧ ∀ word : Keyword, word.spelling ≠ name

/-- The literals and names in an expression are such as lexemes stand for. -/
def Expression.WellFormed : Expression → Prop
  | .integer value => IsIntegerLiteral value
  | .real value => value.IsLiteral
  | .identifier name => IsVariableName name
  | .binary _ left right => left.WellFormed ∧ right.WellFormed
  | .assignment name value => IsVariableName name ∧ value.WellFormed

/-- The name that a statement declares and its expressions are such as lexemes stand for. -/
def Statement.WellFormed : Statement → Prop
  | .declaration _ name initial => IsVariableName name ∧ ∀ value ∈ initial, value.WellFormed
  | .print argument => argument.WellFormed
  | .expression value => value.WellFormed

/-- All statements of a program are such. -/
def Program.WellFormed (program : Program) : Prop :=
  ∀ statement ∈ program, statement.WellFormed

/-! ## Well-formed tokens -/

/-- A token carries what a lexeme can stand for. -/
def Token.WellFormed : Token → Prop
  | .integer value => IsIntegerLiteral value
  | .decimal value => value.IsLiteral
  | .identifier name => IsVariableName name
  | .keyword _ | .operator _ | .punctuation _ => True

theorem Classifies.wellFormed {text : List Char} {token : Token}
    (classified : Classifies text token) : token.WellFormed := by
  cases classified with
  | keyword | operator | punctuation => trivial
  | identifier isWord notReserved =>
      rw [Token.WellFormed, IsVariableName, String.toList_ofList]
      refine ⟨isWord, fun word spelled => notReserved word ?_⟩
      rw [spelled, String.toList_ofList]
  | @integer _ value _ value_eq =>
      have bound := value.toInt_lt
      rw [Token.WellFormed, IsIntegerLiteral, Lexeme.greatestInteger]
      omega
  | decimal => exact Binary64.isLiteral_ofDecimal _ _

theorem Token.wellFormed_of_tokenize {source : String} {tokens : List Token}
    (split : tokenize source = .ok tokens) : ∀ token ∈ tokens, token.WellFormed := by
  intro token member
  obtain ⟨text, classified⟩ := exists_classifies_of_tokenize split member
  exact classified.wellFormed

/-! ## From tokens to trees -/

/-- A tree is well-formed if the tokens in it are. -/
theorem Expression.wellFormed_of_flatten {expression : Expression}
    (tokens : ∀ token ∈ expression.flatten, token.WellFormed) : expression.WellFormed := by
  induction expression with
  | integer | real | identifier => exact tokens _ List.mem_cons_self
  | binary operation left right leftInduction rightInduction =>
      rw [flatten, List.forall_mem_append, List.forall_mem_cons] at tokens
      exact ⟨leftInduction tokens.1, rightInduction tokens.2.2⟩
  | assignment name value induction =>
      rw [flatten, List.forall_mem_cons, List.forall_mem_cons] at tokens
      exact ⟨tokens.1, induction tokens.2.2⟩

theorem Statement.wellFormed_of_flatten {statement : Statement}
    (tokens : ∀ token ∈ statement.flatten, token.WellFormed) : statement.WellFormed := by
  cases statement with
  | declaration type name initial =>
      cases initial with
      | none =>
          rw [flatten, List.forall_mem_cons, List.forall_mem_cons] at tokens
          exact ⟨tokens.2.1, by rintro _ ⟨⟩⟩
      | some value =>
          rw [flatten, List.forall_mem_cons, List.forall_mem_cons, List.forall_mem_cons] at tokens
          refine ⟨tokens.2.1, ?_⟩
          rintro _ ⟨⟩
          exact Expression.wellFormed_of_flatten tokens.2.2.2
  | print argument =>
      rw [flatten, List.forall_mem_cons] at tokens
      exact Expression.wellFormed_of_flatten tokens.2
  | expression value => exact Expression.wellFormed_of_flatten tokens

/-! ## Java texts of literals -/

/-- The value of a `double` in Java: the one of the constant for infinity, or the one nearest to the
number that is written. -/
def Java.doubleOf (text : List Char) : Binary64 :=
  if text = "Double.POSITIVE_INFINITY".toList then .infinite false
  else (Decimal.ofText text).toBinary64

/-- A `double` that a literal stands for is written as a text of the same value. -/
theorem Java.doubleOf_writeDouble {value : Binary64} (isLiteral : value.IsLiteral) :
    doubleOf (writeDouble value) = value := by
  cases isLiteral with
  | finite magnitude =>
      rw [writeDouble_nonnegative, doubleOf, if_neg (write_ne_infinity magnitude),
        magnitude.toBinary64_ofText_write]
  | infinite => rw [writeDouble_infinite, doubleOf, if_pos rfl]

/-! ## Programs -/

/-- Wherever a literal or a name stands in a program that is read: an integer is neither negative nor
beyond 32 bits, a `double` is neither negative nor no number, though perhaps infinite, and the text that
is generated for it has its value, and a name is a word that is not reserved. -/
theorem parse_wellFormed {source : String} {program : Program}
    (parsed : parse source = .ok program) :
    program.WellFormed ∧
    ∀ value, .decimal value ∈ program.flatten →
      Java.doubleOf (Expression.real value).toJava.write = value := by
  obtain ⟨tokens, split, derivation⟩ := derives_of_parse parsed
  have kept : ∀ token ∈ program.flatten, token.WellFormed := by
    intro token member
    rw [derivation.flatten_eq] at member
    exact Token.wellFormed_of_tokenize split token (List.mem_filter.mp member).1
  refine ⟨fun statement member => ?_, fun value member => ?_⟩
  · refine Statement.wellFormed_of_flatten fun token inStatement => kept token ?_
    exact List.mem_flatMap.mpr ⟨statement, member, inStatement⟩
  · exact Java.doubleOf_writeDouble (kept _ member)

/-- An assignment of a number that is too great to be finite. -/
def overflowingSource : String :=
  String.ofList ("a = ".toList ++ (List.replicate 310 '9' ++ ['.']))

theorem parse_wellFormed_overflowing :
    parse overflowingSource = .ok [.expression (.assignment "a" (.real (.infinite false)))] ∧
      Program.WellFormed [.expression (.assignment "a" (.real (.infinite false)))] ∧
      Java.doubleOf (Expression.real (.infinite false)).toJava.write = .infinite false := by
  have nines : IsDigits (List.replicate 310 '9') := by
    refine ⟨List.cons_ne_nil _ _, fun character member => ?_⟩
    rw [List.eq_of_mem_replicate member]
    rfl
  have value_eq : Binary64.ofDecimal false (Nat.ofDigitChars 10 (List.replicate 310 '9' ++ []) 0)
      (-([] : List Char).length) = .infinite false := by
    decide +kernel
  have number : Spells (List.replicate 310 '9' ++ ['.']) [.decimal (.infinite false)] := by
    have spells := Spells.nil.classified (.decimal nines (List.forall_mem_nil _))
      (Boundary.nil.closes _)
    rwa [List.append_nil, value_eq] at spells
  have split : tokenize overflowingSource =
      .ok [.identifier "a", .operator .assign, .decimal (.infinite false)] := by
    have word : IsWord "a".toList := ⟨'a', [], rfl, rfl, by simp⟩
    have notReserved (reserved : Keyword) : reserved.spelling ≠ "a" := by
      rcases reserved with (_ | _) | _ <;> decide
    have behindName : Spells (' ' :: '=' :: ' ' :: (List.replicate 310 '9' ++ ['.']))
        [.operator .assign, .decimal (.infinite false)] :=
      ((number.blank rfl).operator .assign).blank rfl
    exact (SpellsAhead.identifier word notReserved _ _ .space behindName).tokenize_eq
  have parsed := parse_of_derives split (.last (.expression
    (.assignment (.targetName "a") (.expression_of_atom (.real _)))) rfl)
  obtain ⟨wellFormed, right⟩ := parse_wellFormed parsed
  refine ⟨parsed, wellFormed, right _ ?_⟩
  exact List.mem_cons_of_mem _ (List.mem_cons_of_mem _ List.mem_cons_self)

end Luso
