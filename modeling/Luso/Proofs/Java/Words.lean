import Luso.Proofs.Java.Legible
import Luso.Proofs.Number.ReadBack

/-!
# Words in Java texts

Literals and ASCII names are written as words, which have no blank and no parenthesis in them.  A word
ends where such a character comes, and different literals and names are different words.
-/

namespace Luso

/-! ## Literals and names -/

/-- A literal stands for the number: it is not negative, but perhaps too great to be finite. -/
inductive Binary64.IsLiteral : Binary64 → Prop
  | finite (magnitude : Magnitude) : IsLiteral (.finite false magnitude)
  | infinite : IsLiteral (.infinite false)

theorem Binary64.isLiteral_ofRatio (numerator denominator : Nat) :
    (ofRatio false numerator denominator).IsLiteral := by
  rw [ofRatio]
  split
  · exact .finite _
  · exact .infinite

theorem Binary64.isLiteral_ofDecimal (digits : Nat) (exponent : Int) :
    (ofDecimal false digits exponent).IsLiteral := by
  rw [ofDecimal]
  split
  · exact isLiteral_ofRatio _ _
  · exact isLiteral_ofRatio _ _

theorem IsPlainName.isAlphanum {name : String} (plain : IsPlainName name) :
    ∀ character ∈ name.toList, character.isAlphanum = true := by
  obtain ⟨first, tail, name_eq, alpha, tailAll⟩ := plain.spelling
  rw [name_eq]
  refine List.forall_mem_cons.mpr ⟨?_, tailAll⟩
  rw [Char.isAlphanum, alpha, Bool.true_or]

/-- No digit stands first. -/
theorem IsPlainName.exists_first {name : String} (plain : IsPlainName name) :
    ∃ first tail, name.toList = first :: tail ∧ first.isDigit = false := by
  obtain ⟨first, tail, name_eq, alpha, -⟩ := plain.spelling
  have notDigit := isDigit_of_isLetter (Text.isLetter_of_isAlpha alpha)
  exact ⟨first, tail, name_eq, notDigit⟩

theorem IsPlainName.ne_nil {name : String} (plain : IsPlainName name) : name.toList ≠ [] := by
  obtain ⟨first, tail, name_eq, -⟩ := plain.exists_first
  rw [name_eq]
  exact List.cons_ne_nil _ _

theorem Arithmetic.symbol_inj {first second : Arithmetic} (same : first.symbol = second.symbol) :
    first = second := by
  cases first <;> cases second <;> first | rfl | cases same

namespace Java

theorem isDigit_writeInt {value : Int} (notNegative : 0 ≤ value) :
    ∀ character ∈ writeInt value, character.isDigit = true := by
  rw [writeInt, if_neg (Int.not_lt.mpr notNegative)]
  exact fun _ => Nat.isDigit_of_mem_toDigits (by decide) (by decide)

theorem writeInt_ne_nil (value : Int) : writeInt value ≠ [] := by
  rw [writeInt]
  split
  · exact List.cons_ne_nil _ _
  · exact Nat.toDigits_ne_nil

theorem writeDouble_nonnegative (magnitude : Magnitude) :
    writeDouble (.finite false magnitude) = magnitude.shortest.write := by
  rw [writeDouble_finite, Binary64.write, if_neg Bool.false_ne_true]

variable {number number' : Binary64}

/-- Not all characters of a `double` are digits. -/
theorem exists_not_isDigit_writeDouble (isLiteral : number.IsLiteral) :
    ∃ character ∈ writeDouble number, character.isDigit = false := by
  cases isLiteral with
  | finite magnitude =>
      rw [writeDouble_nonnegative]
      rcases magnitude.shortest.point_or_exponent_mem_write with point | exponent
      · exact ⟨'.', point, rfl⟩
      · exact ⟨'e', exponent, rfl⟩
  | infinite =>
      rw [writeDouble_infinite]
      exact ⟨'.', by simp, rfl⟩

theorem writeInt_ne_writeDouble {value : Int} (notNegative : 0 ≤ value)
    (isLiteral : number.IsLiteral) : writeInt value ≠ writeDouble number := by
  intro same
  obtain ⟨character, member, noDigit⟩ := exists_not_isDigit_writeDouble isLiteral
  rw [← same] at member
  exact Bool.noConfusion (noDigit.symm.trans (isDigit_writeInt notNegative character member))

theorem writeInt_ne_name {value : Int} (notNegative : 0 ≤ value) {name : String}
    (plain : IsPlainName name) : writeInt value ≠ name.toList := by
  intro same
  obtain ⟨first, tail, name_eq, noDigit⟩ := plain.exists_first
  have digit := isDigit_writeInt notNegative first (by simp [same, name_eq])
  exact Bool.noConfusion (noDigit.symm.trans digit)

/-- A `double` does not start with a letter, or it has a character that no name has. -/
theorem writeDouble_ne_name (isLiteral : number.IsLiteral) {name : String}
    (plain : IsPlainName name) : writeDouble number ≠ name.toList := by
  intro same
  cases isLiteral with
  | finite magnitude =>
      obtain ⟨digit, rest, write_eq, isDigit⟩ := magnitude.shortest.isDigit_head_write
      obtain ⟨first, tail, name_eq, noDigit⟩ := plain.exists_first
      rw [writeDouble_nonnegative, write_eq, name_eq] at same
      obtain ⟨rfl, -⟩ := List.cons.inj same
      exact Bool.noConfusion (isDigit.symm.trans noDigit)
  | infinite =>
      have point : '.' ∈ name.toList := by
        rw [← same, writeDouble_infinite]
        simp
      cases plain.isAlphanum '.' point

theorem write_ne_infinity (magnitude : Magnitude) :
    magnitude.shortest.write ≠ "Double.POSITIVE_INFINITY".toList := by
  intro same
  have numeral := magnitude.shortest.isNumeral_write 'D' (by simp [same])
  rcases numeral with digit | point | exponent | minus
  · cases digit
  all_goals contradiction

/-- No two literals are written alike as `double`. -/
theorem writeDouble_inj (isLiteral : number.IsLiteral) (isLiteral' : number'.IsLiteral)
    (same : writeDouble number = writeDouble number') : number = number' := by
  cases isLiteral with
  | finite magnitude =>
      rw [writeDouble_nonnegative] at same
      cases isLiteral' with
      | finite magnitude' =>
          rw [writeDouble_nonnegative] at same
          rw [Magnitude.eq_of_write_eq same]
      | infinite => exact absurd same (write_ne_infinity magnitude)
  | infinite =>
      cases isLiteral' with
      | finite magnitude =>
          rw [writeDouble_nonnegative] at same
          exact absurd same.symm (write_ne_infinity magnitude)
      | infinite => rfl

/-! ## Where a word ends -/

/-- The character belongs to a number, a name or another word: it is no blank and no parenthesis. -/
def isSolid (character : Char) : Bool :=
  character != ' ' && character != '(' && character != ')'

/-- A text of such characters. -/
def IsSolid (text : List Char) : Prop :=
  ∀ character ∈ text, isSolid character = true

/-- A text does not go on with such a character. -/
def Ends (behind : List Char) : Prop :=
  ∀ next ∈ behind.head?, isSolid next = false

theorem isSolid_of_isAlphanum {character : Char} (alphanum : character.isAlphanum = true) :
    isSolid character = true := by
  rw [isSolid]
  simp only [Bool.and_eq_true, bne_iff_ne]
  refine ⟨⟨?_, ?_⟩, ?_⟩
  all_goals
    rintro rfl
    cases alphanum

theorem isSolid_of_isNumeral {character : Char} (numeral : IsNumeral character) :
    isSolid character = true := by
  rcases numeral with digit | rfl | rfl | rfl
  · refine isSolid_of_isAlphanum ?_
    rw [Char.isAlphanum, digit, Bool.or_true]
  all_goals rfl

theorem isSolid_writeDouble (value : Binary64) : IsSolid (writeDouble value) :=
  forall_mem_writeDouble (fun _ => isSolid_of_isNumeral) (by simp [isSolid]) (by simp [isSolid])
    value

theorem isSolid_name {name : String} (plain : IsPlainName name) : IsSolid name.toList :=
  fun character member => isSolid_of_isAlphanum (plain.isAlphanum character member)

/-- A word and what stands behind it are told apart. -/
theorem IsSolid.append_inj {word word' behind behind' : List Char} (solid : IsSolid word)
    (solid' : IsSolid word') (ends : Ends behind) (ends' : Ends behind')
    (same : word ++ behind = word' ++ behind') : word = word' ∧ behind = behind' := by
  have words := congrArg (List.takeWhile isSolid) same
  rw [takeWhile_run solid ends, takeWhile_run solid' ends'] at words
  subst words
  exact ⟨rfl, List.append_cancel_left same⟩

theorem IsSolid.append_ne_openParen {word : List Char} (solid : IsSolid word) (nonempty : word ≠ [])
    (behind inside : List Char) : word ++ behind ≠ '(' :: inside := by
  obtain ⟨first, rest, rfl⟩ := List.exists_cons_of_ne_nil nonempty
  intro same
  obtain ⟨rfl, -⟩ := List.cons.inj same
  cases solid '(' List.mem_cons_self

/-- What may stand behind an expression: nothing, a closing parenthesis or the sign of an operation. -/
inductive Follows : List Char → Prop
  | nil : Follows []
  | closeParen (behind : List Char) : Follows (')' :: behind)
  | sign (operation : Arithmetic) (behind : List Char) : Follows (' ' :: operation.symbol :: behind)

theorem Follows.ends {behind : List Char} (follows : Follows behind) : Ends behind := by
  cases follows with
  | nil =>
      rintro next ⟨⟩
  | closeParen | sign =>
      rintro next ⟨⟩
      rfl

/-- The sign of an assignment does not stand behind an expression. -/
theorem not_follows_assign (behind : List Char) : ¬Follows (' ' :: '=' :: behind) := by
  intro follows
  generalize text_eq : ' ' :: '=' :: behind = text at follows
  cases follows with
  | nil | closeParen => cases text_eq
  | sign operation =>
      have symbol_eq := (List.cons.inj (List.cons.inj text_eq).2).1
      cases operation <;> cases symbol_eq

end Java

end Luso
