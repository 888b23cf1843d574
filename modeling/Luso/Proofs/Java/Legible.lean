import Luso.Java.Generation
import Luso.Proofs.Java.Numeral
import Luso.Proofs.Syntax.Exactness
import Luso.Proofs.Token.Spelling

/-!
# Java expressions as expressions of the language

The Java text of an expression is itself a text of the language, and it is read as that expression:
every operand is an atom, since it is written in parentheses unless it is a name or a literal, and the
value of an assignment is all that follows the sign.
-/

namespace Luso

/-! ## Characters of written numbers -/

theorem visible_of_isNumeral {character : Char} (numeral : IsNumeral character) :
    Visible character := by
  rcases numeral with digit | rfl | rfl | rfl
  · exact visible_of_isDigit (Text.isDigit_of_isDigit digit)
  all_goals exact ⟨rfl, by decide⟩

/-- However a `double` is written, its text holds neither a blank nor a comment. -/
theorem visible_writeDouble (value : Binary64) :
    ∀ character ∈ Java.writeDouble value, Visible character := by
  apply Java.forall_mem_writeDouble
  · exact fun _ => visible_of_isNumeral
  · simp [Visible, Text.isBlank]
  · simp [Visible, Text.isBlank]

/-! ## Expressions in Java -/

/-- A name that means the same in Java: an ASCII letter with ASCII letters and digits behind it, but
no reserved word. -/
structure IsPlainName (name : String) : Prop where
  /-- It is spelled with ASCII letters and digits. -/
  spelling : ∃ first tail, name.toList = first :: tail ∧ first.isAlpha = true ∧
    ∀ character ∈ tail, character.isAlphanum = true
  /-- It is no reserved word. -/
  notReserved : ∀ word : Keyword, word.spelling ≠ name

/-- Tokens in parentheses, if they are needed. -/
def encloseTokens (needed : Bool) (tokens : List Token) : List Token :=
  if needed then .punctuation .openParen :: tokens ++ [.punctuation .closeParen] else tokens

namespace Expression

/-- The Java text of an expression can be read: its names are plain, no integer in it is negative, and
every other number is written so that it is one decimal number. -/
def Legible : Expression → Prop
  | .integer value => 0 ≤ value.toInt
  | .real value => tokenize (String.ofList (Java.writeDouble value)) = .ok [.decimal value]
  | .identifier name => IsPlainName name
  | .binary _ left right => left.Legible ∧ right.Legible
  | .assignment name value => IsPlainName name ∧ value.Legible

/-- The tokens of the Java text of an expression. -/
def javaTokens : Expression → List Token
  | .integer value => [.integer value]
  | .real value => [.decimal value]
  | .identifier name => [.identifier name]
  | .binary operation left right =>
      .punctuation .openParen ::
        (encloseTokens left.isAssignment left.javaTokens ++
          .operator (.arithmetic operation) :: encloseTokens right.isAssignment right.javaTokens) ++
        [.punctuation .closeParen]
  | .assignment name value => .identifier name :: .operator .assign :: value.javaTokens

end Expression

/-! ## The grouping of the tokens -/

/-- As an operand, an expression is an atom. -/
theorem Expression.derives_javaTokens (expression : Expression) :
    Derives .expression expression.javaTokens expression ∧
      Derives .atom (encloseTokens expression.isAssignment expression.javaTokens) expression := by
  induction expression with
  | integer value => exact ⟨.expression_of_atom (.integer value), .integer value⟩
  | real value => exact ⟨.expression_of_atom (.real value), .real value⟩
  | identifier name => exact ⟨.expression_of_atom (.name name), .name name⟩
  | binary operation left right leftInduction rightInduction =>
      have group := Derives.group (.binary_of_atoms operation leftInduction.2 rightInduction.2)
      exact ⟨.expression_of_atom group, group⟩
  | assignment name value induction =>
      have whole := Derives.assignment (.targetName name) induction.1
      exact ⟨whole, .group whole⟩

/-! ## The text of the tokens -/

namespace IsPlainName

variable {name : String}

theorem isWord (plain : IsPlainName name) : IsWord name.toList := by
  obtain ⟨first, tail, name_eq, alpha, tailAll⟩ := plain.spelling
  exact ⟨first, tail, name_eq, Text.isLetter_of_isAlpha alpha,
    fun character member => Text.isWordTail_of_isAlphanum (tailAll character member)⟩

theorem javaName_eq (plain : IsPlainName name) : javaName name = name := by
  obtain ⟨first, tail, name_eq, alpha, tailAll⟩ := plain.spelling
  refine Text.removeAccents_of_isAscii fun character member => Text.isAscii_of_isAlphanum ?_
  rw [name_eq] at member
  cases member with
  | head => rw [Char.isAlphanum, alpha, Bool.true_or]
  | tail _ member => exact tailAll character member

theorem spellsAhead (plain : IsPlainName name) :
    SpellsAhead (javaName name).toList [.identifier name] := by
  rw [plain.javaName_eq]
  exact .identifier plain.isWord plain.notReserved

end IsPlainName

theorem SpellsAhead.enclose {text : List Char} {tokens : List Token}
    (inner : SpellsAhead text tokens) (needed : Bool) :
    SpellsAhead (Java.enclose needed text) (encloseTokens needed tokens) := by
  cases needed with
  | false => exact inner
  | true =>
      intro behind rest boundary spells
      have closed := inner _ _ .closeParen (spells.punctuation .closeParen)
      have opened : Spells ('(' :: _) _ := closed.punctuation .openParen
      simpa [Java.enclose, encloseTokens] using opened

theorem SpellsAhead.writeInt {value : Int32} (notNegative : 0 ≤ value.toInt) :
    SpellsAhead (Luso.writeInt value.toInt) [.integer value] := by
  rw [Luso.writeInt, if_neg (Int.not_lt.mpr notNegative)]
  refine .integer ⟨Nat.toDigits_ne_nil, fun character member => ?_⟩ ?_
  · exact Text.isDigit_of_isDigit (Nat.isDigit_of_mem_toDigits (by decide) (by decide) member)
  · rw [Nat.ofDigitChars_ten_toDigits]
    exact (Int.natAbs_of_nonneg notNegative).symm

/-- In front of a boundary, the Java text of an expression splits into its tokens. -/
theorem Expression.spellsAhead_toJava {expression : Expression} (legible : expression.Legible) :
    SpellsAhead expression.toJava.write expression.javaTokens := by
  induction expression with
  | integer value => exact .writeInt legible
  | real value => exact .decimal_of_tokenize (visible_writeDouble value) legible
  | identifier name => exact IsPlainName.spellsAhead legible
  | binary operation left right leftInduction rightInduction =>
      intro behind rest boundary spells
      obtain ⟨leftLegible, rightLegible⟩ := legible
      -- The text is put together from its end, since a text spells tokens in front of others.
      have right := (rightInduction rightLegible).enclose right.isAssignment _ _ .closeParen
        (spells.punctuation .closeParen)
      have sign : Spells (' ' :: operation.symbol :: ' ' :: _) _ :=
        ((right.blank rfl).operator (.arithmetic operation)).blank rfl
      have left := (leftInduction leftLegible).enclose left.isAssignment _ _ .space sign
      have opened : Spells ('(' :: _) _ := left.punctuation .openParen
      simpa [toJava, Java.Expression.write, javaTokens] using opened
  | assignment name value induction =>
      intro behind rest boundary spells
      obtain ⟨plain, valueLegible⟩ := legible
      have value := induction valueLegible _ _ boundary spells
      have sign : Spells (' ' :: '=' :: ' ' :: _) _ := ((value.blank rfl).operator .assign).blank rfl
      have target := plain.spellsAhead _ _ .space sign
      simpa [toJava, Java.Expression.write, javaTokens] using target

/-- The Java text of a legible expression is read as that expression. -/
theorem parse_toJava_text {expression : Expression} (legible : expression.Legible) :
    parse expression.toJava.text = .ok [.expression expression] := by
  have spells := expression.spellsAhead_toJava legible [] [] .nil .nil
  rw [List.append_nil, List.append_nil] at spells
  have derivation : DerivesProgram expression.javaTokens [.expression expression] :=
    .last (.expression expression.derives_javaTokens.1) rfl
  obtain ⟨after, used, program_eq, -⟩ := derivation.reads spells.tokenize_eq
  rw [parse, Java.Expression.text, program_eq]
  rfl

/-- The expression `x = ((y = 2.5) * 3)` holds an assignment as an operand and is one itself. -/
theorem parse_assignedOperand :
    parse (Expression.assignment "x" (.binary .multiply
        (.assignment "y" (.real (Binary64.ofDecimal false 25 (-1)))) (.integer 3))).toJava.text =
      .ok [.expression (.assignment "x" (.binary .multiply
        (.assignment "y" (.real (Binary64.ofDecimal false 25 (-1)))) (.integer 3)))] := by
  generalize number_eq : Binary64.ofDecimal false 25 (-1) = number
  have plain (name : String) (letter : name = "x" ∨ name = "y") : IsPlainName name := by
    rcases letter with rfl | rfl
    all_goals
      refine ⟨⟨_, [], rfl, rfl, by simp⟩, fun word => ?_⟩
      rcases word with (_ | _) | _ <;> decide
  have written : Java.writeDouble number = ['2'] ++ '.' :: ['5'] := by
    rw [← number_eq]
    decide +kernel
  have scanned : tokenize (String.ofList (Java.writeDouble number)) = .ok [.decimal number] := by
    have spells : Spells (['2'] ++ '.' :: ['5'] ++ []) [.decimal (.ofDecimal false 25 (-1))] :=
      SpellsAhead.decimal ⟨List.cons_ne_nil _ _, List.forall_mem_singleton.mpr rfl⟩
        (List.forall_mem_singleton.mpr rfl) [] [] .nil .nil
    rw [written, ← number_eq]
    exact spells.tokenize_eq
  have three : 0 ≤ (3 : Int32).toInt := by decide
  exact parse_toJava_text ⟨plain "x" (.inl rfl), ⟨plain "y" (.inr rfl), scanned⟩, three⟩

end Luso
