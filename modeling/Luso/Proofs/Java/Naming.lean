import Luso.Proofs.Java.Resolution
import Luso.Proofs.Text.Residue

/-!
# Which variables have legal names in Java

The Java name of a variable is what its letters and digits leave behind.  That is nothing but letters
from A to Z and digits; but it may be nothing at all, it may start with a digit, and it may be a word
that Java reserves or that `main` uses itself.
-/

namespace Luso
namespace Java

/-- The words that Java reserves: its keywords and the literals that are spelled like names. -/
def reservedWords : List String :=
  ["abstract", "assert", "boolean", "break", "byte", "case", "catch", "char", "class", "const",
    "continue", "default", "do", "double", "else", "enum", "extends", "final", "finally", "float",
    "for", "goto", "if", "implements", "import", "instanceof", "int", "interface", "long", "native",
    "new", "package", "private", "protected", "public", "return", "short", "static", "strictfp",
    "super", "switch", "synchronized", "this", "throw", "throws", "transient", "try", "void",
    "volatile", "while", "_", "true", "false", "null"]

/-- The parameter of `main`. -/
def parameterName : String := "args"

/-- A legal name for a local variable of `main`, spelled with letters from A to Z and digits. -/
structure IsLegalLocal (name : String) : Prop where
  /-- A letter stands first. -/
  startsWithLetter : name.toList.head?.any Char.isAlpha = true
  /-- All characters are letters and digits. -/
  spelling : name.toList.all Char.isAlphanum = true
  /-- Java does not reserve the name. -/
  notReserved : name ∉ reservedWords
  /-- The name is not taken by the parameter. -/
  notParameter : name ≠ parameterName

instance (name : String) : Decidable (IsLegalLocal name) :=
  decidable_of_iff
    (name.toList.head?.any Char.isAlpha = true ∧
      name.toList.all Char.isAlphanum = true ∧ name ∉ reservedWords ∧ name ≠ parameterName)
    ⟨fun ⟨letter, spelling, notReserved, notParameter⟩ =>
        ⟨letter, spelling, notReserved, notParameter⟩,
      fun ⟨letter, spelling, notReserved, notParameter⟩ =>
        ⟨letter, spelling, notReserved, notParameter⟩⟩

end Java

/-! ## What names leave behind -/

/-- Whether the first character that leaves anything behind is a letter. -/
def startsWithBase (name : String) : Bool :=
  (name.toList.find? fun character => !(Text.residue character).isEmpty).any Text.isLetter

namespace Text

theorem isAlphanum_of_mem_residue {character left : Char}
    (inWord : isWordTail character = true) (member : left ∈ residue character) :
    left.isAlphanum = true := by
  rcases Bool.or_eq_true_iff.mp inWord with letter | digit
  · rw [Char.isAlphanum, isAlpha_of_mem_residue letter member, Bool.true_or]
  · rw [residue_of_isDigit digit] at member
    obtain rfl := List.mem_singleton.mp member
    rw [Char.isAlphanum, ← isDigit_eq, digit, Bool.or_true]

/-- What a character leaves behind starts with a letter exactly if the character is a letter. -/
theorem isAlpha_head_residue {character first : Char} {more : List Char}
    (inWord : isWordTail character = true) (left_eq : residue character = first :: more) :
    first.isAlpha = isLetter character := by
  cases letter : isLetter character with
  | true => exact isAlpha_of_mem_residue letter (left_eq ▸ List.mem_cons_self)
  | false =>
      rw [isWordTail, letter, Bool.false_or] at inWord
      rw [residue_of_isDigit inWord] at left_eq
      obtain ⟨rfl, -⟩ := List.cons.inj left_eq
      cases alpha : character.isAlpha with
      | false => rfl
      | true => exact (isLetter_of_isAlpha alpha).symm.trans letter

theorem head?_flatMap_residue {text : List Char}
    (inWord : ∀ character ∈ text, isWordTail character = true) :
    (text.flatMap residue).head?.any Char.isAlpha =
      (text.find? fun character => !(residue character).isEmpty).any isLetter := by
  induction text with
  | nil => rfl
  | cons character rest induction =>
      obtain ⟨firstInWord, restInWord⟩ := List.forall_mem_cons.mp inWord
      rw [List.flatMap_cons, List.find?_cons]
      cases left_eq : residue character with
      | nil => exact induction restInWord
      | cons first more => exact isAlpha_head_residue firstInWord left_eq

end Text

theorem IsWord.isWordTail {text : List Char} (word : IsWord text) :
    ∀ character ∈ text, Text.isWordTail character = true := by
  obtain ⟨first, tail, rfl, letter, tailAll⟩ := word
  refine List.forall_mem_cons.mpr ⟨?_, tailAll⟩
  rw [Text.isWordTail, letter, Bool.true_or]

/-- The Java name of a word consists of letters from A to Z and digits. -/
theorem isAlphanum_javaName {name : String} (word : IsWord name.toList) :
    ∀ character ∈ (javaName name).toList, character.isAlphanum = true := by
  rw [javaName, Text.toList_removeAccents]
  intro left member
  obtain ⟨character, inName, leaves⟩ := List.mem_flatMap.mp member
  exact Text.isAlphanum_of_mem_residue (word.isWordTail character inName) leaves

theorem isLegalLocal_javaName_iff {name : String} (word : IsWord name.toList) :
    Java.IsLegalLocal (javaName name) ↔
      startsWithBase name = true ∧ javaName name ∉ Java.reservedWords ∧
        javaName name ≠ Java.parameterName := by
  have first_eq : (javaName name).toList.head?.any Char.isAlpha = startsWithBase name := by
    rw [javaName, Text.toList_removeAccents, Text.head?_flatMap_residue word.isWordTail]
    rfl
  constructor
  · intro legal
    exact ⟨first_eq ▸ legal.startsWithLetter, legal.notReserved, legal.notParameter⟩
  · rintro ⟨letter, notReserved, notParameter⟩
    have spelling := List.all_eq_true.mpr (isAlphanum_javaName word)
    exact ⟨first_eq.trans letter, spelling, notReserved, notParameter⟩

/-! ## Accepted programs -/

theorem isWord_of_mem_declaredNames {source name : String} {program : Program}
    (checked : checkSource source = .ok program) (declared : name ∈ program.declaredNames) :
    IsWord name.toList := by
  obtain ⟨statement, member, name_eq⟩ := List.mem_filterMap.mp declared
  exact (isWord_of_parse (checkSource_eq_ok_iff.mp checked).1 member (.inl name_eq)).1

/-- In the class for a source text, a variable has a legal name exactly if the first character of its
name that leaves anything behind is a letter, and what is left is neither reserved nor the name of the
parameter.  In any case it is spelled with letters from A to Z and digits only. -/
theorem compileSource_names_variables {source className text : String}
    (compiled : compileSource source className = .ok text) :
    ∃ program, checkSource source = .ok program ∧ text = (program.toJava className).text ∧
      ∀ name ∈ program.declaredNames,
        (∀ character ∈ (javaName name).toList, character.isAlphanum = true) ∧
          (Java.IsLegalLocal (javaName name) ↔
            startsWithBase name = true ∧ javaName name ∉ Java.reservedWords ∧
              javaName name ≠ Java.parameterName) := by
  obtain ⟨program, checked, text_eq⟩ := compileSource_eq_ok_iff.mp compiled
  refine ⟨program, checked, text_eq, fun name declared => ?_⟩
  have word := isWord_of_mem_declaredNames checked declared
  exact ⟨isAlphanum_javaName word, isLegalLocal_javaName_iff word⟩

/-- A variable whose name loses its first letter and an accent. -/
def shortenedName : Program :=
  [.declaration .integer "æé1" (some (.integer 1))]

theorem compileSource_shortenedName :
    compileSource "inteiro æé1 = 1!" "Main" =
        .ok (shortenedName.toJava "Main").text ∧
      javaName "æé1" = "e1" ∧ Java.IsLegalLocal (javaName "æé1") := by
  have split : tokenize "inteiro æé1 = 1!" =
      .ok
        [.keyword (.declare .integer), .identifier "æé1", .operator .assign, .integer 1,
          .punctuation .terminator] := by
    cbv
  have one := Derives.expression_of_atom (.integer 1)
  have derivation : DerivesProgram _ shortenedName := .cons (.initialised .integer "æé1" one) .nil
  have checked := checkSource_of_derives split derivation
    (accepted_of_toOption shortenedName (by decide +kernel))
  have compiled := compileSource_eq_ok_iff.mpr
    ⟨shortenedName, checked, (rfl : (shortenedName.toJava "Main").text = _)⟩
  obtain ⟨program, found, -, named⟩ := compileSource_names_variables compiled
  obtain rfl : shortenedName = program := Except.ok.inj (checked.symm.trans found)
  obtain ⟨-, legal_iff⟩ := named "æé1" List.mem_cons_self
  refine ⟨compiled, ?_, legal_iff.mpr ?_⟩
  all_goals decide +kernel

/-- A reserved word, the parameter, a letter that leaves nothing behind, and one in front of a digit. -/
def illegalNames : Program :=
  [.declaration .integer "int" (some (.integer 1)),
    .declaration .integer "args" (some (.integer 2)),
    .declaration .integer "æ" (some (.integer 3)),
    .declaration .integer "æ1" (some (.integer 4))]

/-- No variable of an accepted source text has a legal name. -/
theorem compileSource_illegalNames :
    compileSource "inteiro int = 1! inteiro args = 2! inteiro æ = 3! inteiro æ1 = 4!" "Main" =
        .ok (illegalNames.toJava "Main").text ∧
      checkSource "inteiro int = 1! inteiro args = 2! inteiro æ = 3! inteiro æ1 = 4!" =
        .ok illegalNames ∧
      (illegalNames.toJava "Main").declaredNames = ["int", "args", "", "1"] ∧
      ∀ name ∈ illegalNames.declaredNames, ¬Java.IsLegalLocal (javaName name) := by
  have split :
      tokenize "inteiro int = 1! inteiro args = 2! inteiro æ = 3! inteiro æ1 = 4!" =
      .ok
        [.keyword (.declare .integer), .identifier "int", .operator .assign, .integer 1,
          .punctuation .terminator, .keyword (.declare .integer), .identifier "args",
          .operator .assign, .integer 2, .punctuation .terminator, .keyword (.declare .integer),
          .identifier "æ", .operator .assign, .integer 3, .punctuation .terminator,
          .keyword (.declare .integer), .identifier "æ1", .operator .assign, .integer 4,
          .punctuation .terminator] := by
    cbv
  have literal (value : Int32) := Derives.expression_of_atom (.integer value)
  have derivation : DerivesProgram _ illegalNames :=
    .cons (.initialised .integer "int" (literal 1))
      (.cons (.initialised .integer "args" (literal 2))
        (.cons (.initialised .integer "æ" (literal 3))
          (.cons (.initialised .integer "æ1" (literal 4)) .nil)))
  have checked := checkSource_of_derives split derivation
    (accepted_of_toOption illegalNames (by decide +kernel))
  refine ⟨compileSource_eq_ok_iff.mpr ⟨illegalNames, checked, rfl⟩, checked, ?_, ?_⟩
  all_goals decide +kernel

end Luso
